import CharacterSheet.Item

/-!
# Actors

The sheet of one character, and the edits that a session makes to it. An edit that names an item
applies to every item of that name.
-/

namespace CharacterSheet

/-- One way of moving. -/
structure Speed where
  mode : String
  squares : UInt32
  deriving DecidableEq

namespace Speed

/-- The speed as the sheet shows it. -/
def title (speed : Speed) : String :=
  speed.mode ++ " " ++ Text.natural speed.squares.toNat ++ " Squares"

/-- The speed as a file has it. -/
def toJson (speed : Speed) : Json :=
  .object [("mode", .string speed.mode), ("squares", .integer speed.squares.toNat)]

/-- Reads a speed. -/
def ofJson (j : Json) : Json.Decoded Speed := do
  let record ← j.asRecord 2
  return {
    mode := ← record.required 0 ["mode"] Json.asText
    squares := ← record.required 1 ["squares"] Json.asUInt32 }

end Speed

/-- The steps of the condition track, from unhurt to helpless. -/
inductive TrackStep where
  | normal
  | minusOne
  | minusTwo
  | minusFive
  | minusTen
  | helpless
  deriving DecidableEq

namespace TrackStep

/-- Every step. -/
def list : List TrackStep :=
  [.normal, .minusOne, .minusTwo, .minusFive, .minusTen, .helpless]

/-- The name of a step in a file. -/
def key : TrackStep → String
  | .normal => "normal"
  | .minusOne => "minusOne"
  | .minusTwo => "minusTwo"
  | .minusFive => "minusFive"
  | .minusTen => "minusTen"
  | .helpless => "helpless"

/-- What a step adds to every defense. -/
def penalty : TrackStep → Int64
  | .normal => 0
  | .minusOne => -1
  | .minusTwo => -2
  | .minusFive => -5
  | .minusTen | .helpless => -10

/-- Reads a step by its name in a file. -/
def ofJson : Json → Json.Decoded TrackStep :=
  Json.asChoice (list.map fun step => (step.key, step))

end TrackStep

/-- The sheet of a character. -/
structure Actor where
  name : String := ""
  age : Option UInt32 := none
  sex : Option String := none
  characterLevel : UInt32 := 0
  heroicLevel : UInt32 := 0
  baseAttackBonus : Int64 := 0
  darkSideScore : Int64 := 0
  abilities : AbilityScores := {}
  weaponProficiencies : List String := []
  armorProficiencies : List String := []
  trainedSkills : List String := []
  items : List Item := []
  speed : List Speed := [⟨"Stand", 6⟩]
  condition : TrackStep := .normal
  attributes : List Attribute := []
  /-- may take anything, as the characters do that no player plays -/
  ignorePrerequisites : Bool := false
  deriving DecidableEq

namespace Actor

/-! ## In a file -/

/-- The actor as a file has it, every field included. -/
def toJson (actor : Actor) : Json :=
  .object [
    ("name", .string actor.name),
    ("age", Json.nullable (fun n => .integer n.toNat) actor.age),
    ("sex", Json.nullable .string actor.sex),
    ("characterLevel", .integer actor.characterLevel.toNat),
    ("heroicLevel", .integer actor.heroicLevel.toNat),
    ("baseAttackBonus", .integer actor.baseAttackBonus.toInt),
    ("darkSideScore", .integer actor.darkSideScore.toInt),
    ("abilities", actor.abilities.toJson),
    ("weaponProficiencies", Json.list .string actor.weaponProficiencies),
    ("armorProficiencies", Json.list .string actor.armorProficiencies),
    ("trainedSkills", Json.list .string actor.trainedSkills),
    ("items", Json.list Item.toJson actor.items),
    ("speed", Json.list Speed.toJson actor.speed),
    ("condition", .string actor.condition.key),
    ("attributes", Json.list Attribute.toJson actor.attributes),
    ("ignorePrerequisites", .bool actor.ignorePrerequisites)]

/-- Reads an actor. A field that is left out keeps its default. -/
def ofJson (j : Json) : Json.Decoded Actor := do
  let record ← j.asRecord 16
  let blank : Actor := {}
  return {
    name := ← record.withDefault 0 ["name"] blank.name Json.asText
    age := ← record.optional 1 ["age"] Json.asUInt32
    sex := ← record.optional 2 ["sex"] Json.asText
    characterLevel := ← record.withDefault 3 ["characterLevel"] blank.characterLevel Json.asUInt32
    heroicLevel := ← record.withDefault 4 ["heroicLevel"] blank.heroicLevel Json.asUInt32
    baseAttackBonus := ← record.withDefault 5 ["baseAttackBonus"] blank.baseAttackBonus Json.asInt64
    darkSideScore := ← record.withDefault 6 ["darkSideScore"] blank.darkSideScore Json.asInt64
    abilities := ← record.withDefault 7 ["abilities"] blank.abilities AbilityScores.ofJson
    weaponProficiencies := ← record.list 8 ["weaponProficiencies"] Json.asText
    armorProficiencies := ← record.list 9 ["armorProficiencies"] Json.asText
    trainedSkills := ← record.list 10 ["trainedSkills"] Json.asText
    items := ← record.list 11 ["items"] Item.ofJson
    speed := ← record.withDefault 12 ["speed"] blank.speed (Json.asList Speed.ofJson)
    condition := ← record.withDefault 13 ["condition"] blank.condition TrackStep.ofJson
    attributes := ← record.list 14 ["attributes"] Attribute.ofJson
    ignorePrerequisites :=
      ← record.withDefault 15 ["ignorePrerequisites"] blank.ignorePrerequisites Json.asFlag }

/-! ## Edits -/

/-- The items that are equipped. -/
def equipped (actor : Actor) : List Item :=
  actor.items.filter (·.equipped)

/-- Puts an item behind all others. -/
def addItem (actor : Actor) (item : Item) : Actor :=
  { actor with items := actor.items ++ [item] }

/-- Takes away the items of a name. -/
def removeItems (actor : Actor) (name : String) : Actor :=
  { actor with items := actor.items.filter (·.name != name) }

/-- Changes the items of a name. -/
def updateItems (actor : Actor) (name : String) (change : Item → Item) : Actor :=
  { actor with items := actor.items.map fun item => if item.name == name then change item else item }

/-- Equips or puts away the items of a name. -/
def equip (actor : Actor) (name : String) (equipped : Bool) : Actor :=
  actor.updateItems name fun item => { item with equipped }

/-- Puts an attribute behind all others of the actor's own. -/
def addAttribute (actor : Actor) (key : AttributeKey) (value : AttributeValue) : Actor :=
  { actor with attributes := actor.attributes ++ [⟨key, value⟩] }

end Actor

/-- Puts an attribute behind all others of an item. -/
def Item.addAttribute (item : Item) (key : AttributeKey) (value : AttributeValue) : Item :=
  { item with attributes := item.attributes ++ [⟨key, value⟩] }

end CharacterSheet
