import CharacterSheet.Prerequisite.Load
import CharacterSheet.Prerequisite.Save

/-!
# Items

A feat, a class, a species, a piece of gear, a condition: whatever a character has. An item brings
attributes to its owner and may have prerequisites of its own, which decide whether it still counts
for the prerequisites of others. Gear brings its attributes only while it is equipped.
-/

namespace CharacterSheet

/-! ## Armor -/

/-- How heavy a suit of armor is. -/
inductive ArmorType where
  | light
  | medium
  | heavy
  deriving DecidableEq

namespace ArmorType

/-- The name of a type, on the sheet and in a file. -/
def title : ArmorType → String
  | .light => "Light"
  | .medium => "Medium"
  | .heavy => "Heavy"

/-- Reads a type by its name. -/
def ofJson : Json → Json.Decoded ArmorType :=
  Json.asChoice ([light, medium, heavy].map fun type => (type.title, type))

end ArmorType

/-- What a suit of armor does for its wearer. -/
structure ArmorStats where
  type : ArmorType
  reflexBonus : Option Int64 := none
  fortitudeBonus : Option Int64 := none
  /-- the most that Dexterity may add to Reflex -/
  maxDexterity : Option Int64 := none
  special : List String := []
  deriving DecidableEq

namespace ArmorStats

/-- The stats as a file has them, with `null` for what is absent. -/
def toJson (stats : ArmorStats) : Json :=
  let bonus : Option Int64 → Json := Json.nullable fun n => .integer n.toInt
  .object [
    ("armorType", .string stats.type.title),
    ("reflexBonus", bonus stats.reflexBonus),
    ("fortitudeBonus", bonus stats.fortitudeBonus),
    ("maxDexBonus", bonus stats.maxDexterity),
    ("special", Json.list .string stats.special)]

/-- Reads armor stats. -/
def ofJson (j : Json) : Json.Decoded ArmorStats := do
  let record ← j.asRecord 5
  return {
    type := ← record.required 0 ["armorType"] ArmorType.ofJson
    reflexBonus := ← record.optional 1 ["reflexBonus"] Json.asInt64
    fortitudeBonus := ← record.optional 2 ["fortitudeBonus"] Json.asInt64
    maxDexterity := ← record.optional 3 ["maxDexBonus"] Json.asInt64
    special := ← record.list 4 ["special"] Json.asText }

end ArmorStats

/-! ## Items -/

/-- Something that a character has. -/
structure Item where
  /-- the name that prerequisites ask for -/
  name : String
  kind : ItemKind
  equipped : Bool := false
  prerequisites : List Prerequisite := []
  attributes : List Attribute := []
  /-- the tree that a talent belongs to -/
  talentTree : Option String := none
  /-- a second tree that it counts for -/
  bonusTalentTree : Option String := none
  armor : Option ArmorStats := none
  deriving DecidableEq

namespace Item

/-- Whether a talent counts for a tree. -/
def isInTree (item : Item) (tree : String) : Bool :=
  item.talentTree == some tree || item.bonusTalentTree == some tree

/-- Whether the item brings its attributes to its owner. -/
def isActive (item : Item) : Bool :=
  !item.kind.isCarried || item.equipped

/-- The item as a file has it. -/
def toJson (item : Item) : Json :=
  .object ([
    ("name", .string item.name),
    ("type", .string item.kind.key),
    ("equipped", .bool item.equipped)] ++
    Json.members? "prerequisites" Prerequisite.toJson item.prerequisites ++
    Json.members? "attributes" Attribute.toJson item.attributes ++
    Json.member? "talentTree" .string item.talentTree ++
    Json.member? "bonusTalentTree" .string item.bonusTalentTree ++
    Json.member? "armor" ArmorStats.toJson item.armor)

/-- Reads an item. Its prerequisites go by either of two names. -/
def ofJson (j : Json) : Json.Decoded Item := do
  let record ← j.asRecord 8
  return {
    name := ← record.required 0 ["name"] Json.asText
    kind := ← record.required 1 ["type"] ItemKind.ofJson
    equipped := ← record.withDefault 2 ["equipped"] false Json.asFlag
    prerequisites :=
      ← record.withDefault 3 ["prerequisites", "prerequisite"] [] Prerequisite.listOfJson
    attributes := ← record.list 4 ["attributes"] Attribute.ofJson
    talentTree := ← record.optional 5 ["talentTree"] Json.asText
    bonusTalentTree := ← record.optional 6 ["bonusTalentTree"] Json.asText
    armor := ← record.optional 7 ["armor"] ArmorStats.ofJson }

/-- Anything but gear is active. -/
theorem isActive_of_not_isCarried {item : Item} (h : item.kind.isCarried = false) :
    item.isActive = true := by
  simp [isActive, h]

/-- Gear that is not equipped is not. -/
theorem isActive_of_isCarried {item : Item} (h : item.kind.isCarried = true) :
    item.isActive = item.equipped := by
  simp [isActive, h]

end Item

end CharacterSheet
