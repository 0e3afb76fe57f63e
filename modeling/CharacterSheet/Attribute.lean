import CharacterSheet.Json.Record
import CharacterSheet.Text.Blank
import CharacterSheet.Text.Lowercase

/-!
# Attributes

An attribute is a key with a value, recorded on an actor or on an item. Its value is a flag, a number,
a bonus to a defense or free text. The first two and numeric text also read as a number, and every
value reads as a truth value.
-/

namespace CharacterSheet

/-! ## Keys -/

/-- The name of an attribute. -/
abbrev AttributeKey := String

namespace AttributeKey

def isDroid : AttributeKey := "isDroid"
def ignoreCon : AttributeKey := "ignoreCon"
def damageReduction : AttributeKey := "damageReduction"
def defenseBonuses : AttributeKey := "defenseBonuses"
def sizeModifier : AttributeKey := "sizeModifier"
def damageThresholdSizeModifier : AttributeKey := "damageThresholdSizeModifier"
def classFortitudeDefenseBonus : AttributeKey := "classFortitudeDefenseBonus"
def classReflexDefenseBonus : AttributeKey := "classReflexDefenseBonus"
def classWillDefenseBonus : AttributeKey := "classWillDefenseBonus"
def fortitudeDefenseBonus : AttributeKey := "fortitudeDefenseBonus"
def dodgeReflexDefenseBonus : AttributeKey := "bonusDodgeReflexDefense"

/-- The keys that the rules of a sheet look up by themselves. -/
def known : List AttributeKey :=
  [isDroid, ignoreCon, damageReduction, defenseBonuses, sizeModifier, damageThresholdSizeModifier,
    classFortitudeDefenseBonus, classReflexDefenseBonus, classWillDefenseBonus,
    fortitudeDefenseBonus, dodgeReflexDefenseBonus]

/-- The keys by their characters' code points. -/
def sort (keys : List AttributeKey) : List AttributeKey :=
  keys.mergeSort fun a b => decide (a ≤ b)

/-- The given and the known keys, sorted, each of them once. -/
def sortWithKnown (keys : List AttributeKey) : List AttributeKey :=
  sort (keys ++ known).eraseDups

end AttributeKey

/-! ## Bonuses to a defense -/

/-- What a bonus applies to: one of the three defenses or all of them. -/
inductive DefenseScope where
  | all
  | fortitude
  | reflex
  | will
  deriving DecidableEq

namespace DefenseScope

/-- The name on the sheet. -/
def title : DefenseScope → String
  | .all => "All"
  | .fortitude => "Fortitude"
  | .reflex => "Reflex"
  | .will => "Will"

/-- The name in a file. -/
def key : DefenseScope → String
  | .all => "all"
  | .fortitude => "fortitude"
  | .reflex => "reflex"
  | .will => "will"

/-- Whether a bonus of this scope counts for `defense`. -/
def covers (scope defense : DefenseScope) : Bool :=
  scope == .all || scope == defense

/-- Reads a scope by its name in a file. -/
def ofJson : Json → Json.Decoded DefenseScope :=
  Json.asChoice ([all, fortitude, reflex, will].map fun scope => (scope.key, scope))

end DefenseScope

/-- A bonus to a defense. With a `situation` it only counts against what that names, and is reported
instead of summed. -/
structure DefenseBonus where
  defense : DefenseScope
  bonus : Int64
  situation : Option String := none
  deriving DecidableEq

namespace DefenseBonus

/-- The bonus as a file has it. -/
def toJson (bonus : DefenseBonus) : Json :=
  .object ([("defense", .string bonus.defense.key), ("bonus", .integer bonus.bonus.toInt)] ++
    Json.member? "modifier" .string bonus.situation)

/-- Reads a bonus. -/
def ofJson (j : Json) : Json.Decoded DefenseBonus := do
  let record ← j.asRecord 3
  return {
    defense := ← record.required 0 ["defense"] DefenseScope.ofJson
    bonus := ← record.required 1 ["bonus"] Json.asInt64
    situation := ← record.optional 2 ["modifier"] Json.asText }

end DefenseBonus

/-! ## Values -/

/-- The value of an attribute. -/
inductive AttributeValue where
  | flag (b : Bool)
  | number (n : Int64)
  | defenseBonus (bonus : DefenseBonus)
  | text (s : String)
  deriving DecidableEq

namespace AttributeValue

/-- The value read as a number: a flag counts one or zero, and text counts if it is a number. -/
def toNumber? : AttributeValue → Option Int64
  | .flag b => some (if b then 1 else 0)
  | .number n => some n
  | .defenseBonus _ => none
  | .text s => Text.readInt64 (Text.trim s.toList)

/-- The value read as a truth value: zero, empty text and the word `false` are not true. -/
def holds : AttributeValue → Bool
  | .flag b => b
  | .number n => n != 0
  | .defenseBonus _ => true
  | .text s => !s.isEmpty && !Text.sameAsciiLowercase s "false"

/-- The bonus, if the value is one. -/
def bonus? : AttributeValue → Option DefenseBonus
  | .defenseBonus bonus => some bonus
  | _ => none

/-- The value as a file has it. -/
def toJson : AttributeValue → Json
  | .flag b => .bool b
  | .number n => .integer n.toInt
  | .defenseBonus bonus => bonus.toJson
  | .text s => .string s

/-- Reads a value by its form: objects and arrays are bonuses. -/
def ofJson : Json → Json.Decoded AttributeValue
  | .bool b => .ok (.flag b)
  | .integer n => (Json.asInt64 (.integer n)).map number
  | .string s => .ok (.text s)
  | j => (DefenseBonus.ofJson j).map defenseBonus

end AttributeValue

/-- A key with a value. -/
structure Attribute where
  key : AttributeKey
  value : AttributeValue
  deriving DecidableEq

namespace Attribute

/-- The attribute as a file has it. -/
def toJson (a : Attribute) : Json :=
  .object [("key", .string a.key), ("value", a.value.toJson)]

/-- Reads an attribute. -/
def ofJson (j : Json) : Json.Decoded Attribute := do
  let record ← j.asRecord 2
  return {
    key := ← record.required 0 ["key"] Json.asText
    value := ← record.required 1 ["value"] AttributeValue.ofJson }

end Attribute

end CharacterSheet
