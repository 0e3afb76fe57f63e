import CharacterSheet.Json.Reader
import CharacterSheet.Prerequisite.Authored
import CharacterSheet.Prerequisite.Tag

/-!
# Loading authored nodes

Every requirement is read once, when content is loaded, so that judging a character never meets text
that does not make sense. An unknown tag and an unknown special requirement still load: they become
conditions that nobody meets, and one bad node does not keep a whole item from loading.

In a list of nodes, those without a tag carry no condition and are left out. The first node at fault,
in the order of the list and children before the number of an `OR`, decides the fault of the whole.
-/

namespace CharacterSheet

/-- What loading gives. -/
abbrev Loaded (α : Type) := Except AuthoringFault α

/-! ## Requirements -/

/-- A number, with blanks around it or not. -/
def readNumber {α : Type} (tag : String) (read : List Char → Option α) (s : String) : Loaded α :=
  match read (Text.trim s.toList) with
  | some n => .ok n
  | none => .error (.invalidNumber tag s)

/-- The ability whose total a reference names: its abbreviation followed by `TOTAL`. -/
def Ability.ofTotal? (reference : String) : Option Ability :=
  list.find? fun ability => Text.sameAsciiLowercase (ability.abbreviation ++ "TOTAL") reference

/-- A number, or a reference behind an `@`: to an ability total if it names one, and otherwise to the
sum of an attribute. -/
def Threshold.ofText (tag s : String) : Loaded Threshold :=
  let s := Text.trim s.toList
  match Text.readInt64 s, s with
  | some n, _ => .ok (.fixed n)
  | none, '@' :: c :: reference =>
    let key := String.ofList (c :: reference)
    match Ability.ofTotal? key with
    | some ability => .ok (.abilityScore ability)
    | none => .ok (.attributeSum key)
  | none, _ => .error (.invalidNumber tag (String.ofList s))

/-- The rules on droids ignore case, the one on the lightsaber does not. -/
def Special.ofText (s : String) : Special :=
  let trimmed := Text.trim s.toList
  if trimmed = "Has Built Lightsaber".toList then .builtLightsaber
  else
    let lower := Text.lowercase trimmed
    if lower = "not a droid".toList then .notDroid
    else if lower = "is a droid".toList then .droid
    else .other s

/-- A key and a threshold, with blanks between them. -/
def Condition.attributeOfText (s : String) : Loaded Condition :=
  match Text.words s.toList with
  | [key, least] => match Text.readInt64 least with
    | some least => .ok (.attributeSum (String.ofList key) least)
    | none => .error (.invalidAttribute s)
  | _ => .error (.invalidAttribute s)

/-- A number asks for so many techniques, anything else for the technique of that name. -/
def Condition.techniqueOfText (s : String) : Condition :=
  match Text.readUInt32 (Text.trim s.toList) with
  | some least => .techniqueCount least
  | none => .asset .technique s

/-! ## Leaves -/

/-- The condition of a leaf whose requirement has the text `s`. Age ranges have none. -/
def Condition.ofText (s : String) : LeafTag → Loaded Condition
  | .age => .ok (.age 0 none)
  | .characterLevel =>
    (readNumber LeafTag.characterLevel.text Text.readUInt32 s).map .characterLevel
  | .baseAttackBonus =>
    (readNumber LeafTag.baseAttackBonus.text Text.readInt64 s).map .baseAttackBonus
  | .darkSideScore => (Threshold.ofText LeafTag.darkSideScore.text s).map .darkSideScore
  | .asset .technique => .ok (techniqueOfText s)
  | .asset kind => .ok (.asset kind s)
  | .attributeSum => attributeOfText s
  | .special => .ok (.special (Special.ofText s))

/-- An end of an age range. -/
def Condition.ageEnd (field : Option AuthoredField) : Loaded (Option UInt32) :=
  match field with
  | none => .ok none
  | some s => (readNumber LeafTag.age.text Text.readUInt32 s.toText).map some

/-- The condition of a leaf. -/
def Condition.ofFields (requirement low high : Option AuthoredField) : LeafTag → Loaded Condition
  | .age => do
    let low ← ageEnd low
    let high ← ageEnd high
    return .age (low.getD 0) high
  | tag => match requirement with
    | none => .error (.noRequirement tag.text)
    | some s => ofText s.toText tag

/-! ## Nodes -/

/-- How many children an `OR` asks for; one, if it does not say. -/
def AuthoredNode.readCount (count : Option AuthoredField) : Loaded UInt32 :=
  match count with
  | none => .ok 1
  | some s => readNumber Tag.any.text Text.readUInt32 s.toText

/-- Whether a node has a tag at all. -/
def AuthoredNode.isTagged (node : AuthoredNode) : Bool :=
  match node.tag with
  | none => false
  | some tag => !Text.isBlankText tag

namespace Prerequisite

mutual

/-- Loads a node. -/
def load : AuthoredNode → Loaded Prerequisite
  | ⟨tag, text, requirement, low, high, count, children⟩ =>
    match Tag.ofText? (tag.getD "") with
    | none => .ok (.leaf text (.unsupported (tag.getD "") (requirement.map AuthoredField.toText)))
    | some (.leaf tag) => (Condition.ofFields requirement low high tag).map (.leaf text)
    | some .all =>
      if children.isEmpty then .error (.noChildren Tag.all.text)
      else (loadList children).map (.all text)
    | some .any =>
      if children.isEmpty then .error (.noChildren Tag.any.text)
      else do
        let children ← loadList children
        let count ← AuthoredNode.readCount count
        return .any text count children

/-- Loads the nodes of a list that have a tag. -/
def loadList : List AuthoredNode → Loaded (List Prerequisite)
  | [] => .ok []
  | node :: rest =>
    if node.isTagged then do
      let node ← load node
      let rest ← loadList rest
      return node :: rest
    else loadList rest

end

/-! ## From JSON -/

/-- Raises a fault of authoring to the level of decoding. -/
def decoded {α : Type} : Loaded α → Json.Decoded α
  | .ok a => .ok a
  | .error fault => .error (.content fault)

/-- Reads a single node. -/
def ofJson (j : Json) : Json.Decoded Prerequisite := do
  decoded (load (← AuthoredNode.ofJson j))

/-- Reads one node, a list of nodes, or `null` for none. -/
def listOfJson : Json → Json.Decoded (List Prerequisite)
  | .null => .ok []
  | j => do decoded (loadList (← AuthoredNode.ofJsonOneOrMany j))

/-- Loads one node or a list of nodes from content. -/
def listOfContent (j : Json) : Except ContentFault (List Prerequisite) :=
  match AuthoredNode.ofJsonOneOrMany j with
  | .error _ => .error .unreadable
  | .ok nodes => (loadList nodes).mapError .authoring

/-- Loads the text of one node or of a list of nodes. -/
def listOfText (text : String) : Except ContentFault (List Prerequisite) :=
  match Json.read text with
  | none => .error .unreadable
  | some j => listOfContent j

end Prerequisite

end CharacterSheet
