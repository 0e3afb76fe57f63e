import CharacterSheet.Json.Record
import CharacterSheet.Reckoning
import CharacterSheet.Text.Lowercase

/-!
# Abilities

The six abilities of a character, their scores and the modifiers that follow from them. A score of
ten is average: its modifier is zero, and every two points above or below move it by one.
-/

namespace CharacterSheet

/-- The six abilities, in the order of the sheet. -/
inductive Ability where
  | strength
  | dexterity
  | constitution
  | intelligence
  | wisdom
  | charisma
  deriving DecidableEq

namespace Ability

/-- Every ability, in the order of the sheet. -/
def list : List Ability :=
  [.strength, .dexterity, .constitution, .intelligence, .wisdom, .charisma]

/-- The three letters that stand for an ability in authored content. -/
def abbreviation : Ability → String
  | .strength => "STR"
  | .dexterity => "DEX"
  | .constitution => "CON"
  | .intelligence => "INT"
  | .wisdom => "WIS"
  | .charisma => "CHA"

/-- The name of an ability in a file. -/
def key : Ability → String
  | .strength => "str"
  | .dexterity => "dex"
  | .constitution => "con"
  | .intelligence => "int"
  | .wisdom => "wis"
  | .charisma => "cha"

/-- The ability with this abbreviation, in upper or lower case. -/
def ofAbbreviation? (s : String) : Option Ability :=
  list.find? fun ability => Text.sameAsciiLowercase ability.abbreviation s

theorem mem_list (ability : Ability) : ability ∈ list := by
  cases ability <;> decide

theorem ofAbbreviation?_abbreviation (ability : Ability) :
    ofAbbreviation? ability.abbreviation = some ability := by
  cases ability <;> decide +kernel

end Ability

/-- The score of each ability. -/
structure AbilityScores where
  strength : Int64 := 10
  dexterity : Int64 := 10
  constitution : Int64 := 10
  intelligence : Int64 := 10
  wisdom : Int64 := 10
  charisma : Int64 := 10
  deriving DecidableEq

namespace AbilityScores

/-- The score of one ability. -/
def score (scores : AbilityScores) : Ability → Int64
  | .strength => scores.strength
  | .dexterity => scores.dexterity
  | .constitution => scores.constitution
  | .intelligence => scores.intelligence
  | .wisdom => scores.wisdom
  | .charisma => scores.charisma

/-- Half of what the score has above ten, rounded down. A score within ten of the least number goes
around when ten is taken off. -/
def modifier (scores : AbilityScores) (ability : Ability) : Int64 :=
  Reckoning.half (scores.score ability - 10)

/-- The scores as a file has them. -/
def toJson (scores : AbilityScores) : Json :=
  .object (Ability.list.map fun ability => (ability.key, .integer (scores.score ability).toInt))

/-- Reads scores; one that is left out is ten. -/
def ofJson (j : Json) : Json.Decoded AbilityScores := do
  let record ← j.asRecord 6
  let field (place : Nat) (ability : Ability) :=
    record.withDefault place [ability.key] 10 Json.asInt64
  return {
    strength := ← field 0 .strength
    dexterity := ← field 1 .dexterity
    constitution := ← field 2 .constitution
    intelligence := ← field 3 .intelligence
    wisdom := ← field 4 .wisdom
    charisma := ← field 5 .charisma }

end AbilityScores

end CharacterSheet
