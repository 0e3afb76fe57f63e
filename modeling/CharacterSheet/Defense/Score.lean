import CharacterSheet.Json.Record
import CharacterSheet.Reckoning

/-!
# Scores of a defense

The total of a defense with its breakdown, the labelled values that it is the sum of, and four columns
that the sheet shows beside it. The total is a machine sum, and goes around the range of a number where
it leaves that.
-/

namespace CharacterSheet

/-- The score of one defense. -/
structure DefenseScore where
  total : Int64 := 0
  abilityBonus : Int64 := 0
  armorBonus : Int64 := 0
  classBonus : Int64 := 0
  miscBonus : Int64 := 0
  /-- what the total is made of, in the order of the sheet -/
  sources : List (String × Int64) := []
  deriving DecidableEq

namespace DefenseScore

/-- Adds a value to the total, and says where it comes from. -/
def add (score : DefenseScore) (label : String) (value : Int64) : DefenseScore :=
  { score with total := score.total + value, sources := score.sources ++ [(label, value)] }

/-- A score made of nothing but its sources. -/
def ofSources (sources : List (String × Int64)) : DefenseScore :=
  sources.foldl (fun score source => score.add source.1 source.2) {}

/-- The score as a file has it. -/
def toJson (score : DefenseScore) : Json :=
  .object [
    ("total", .integer score.total.toInt),
    ("abilityBonus", .integer score.abilityBonus.toInt),
    ("armorBonus", .integer score.armorBonus.toInt),
    ("classBonus", .integer score.classBonus.toInt),
    ("miscBonus", .integer score.miscBonus.toInt),
    ("sources", Json.list (fun (label, value) => .array [.string label, .integer value.toInt])
      score.sources)]

/-- Reads a label with its value. -/
def sourceOfJson : Json → Json.Decoded (String × Int64)
  | .array [label, value] => do
    let label ← label.asText
    let value ← value.asInt64
    return (label, value)
  | _ => .error .shape

/-- Reads a score. -/
def ofJson (j : Json) : Json.Decoded DefenseScore := do
  let record ← j.asRecord 6
  let number (place : Nat) (key : String) := record.required place [key] Json.asInt64
  return {
    total := ← number 0 "total"
    abilityBonus := ← number 1 "abilityBonus"
    armorBonus := ← number 2 "armorBonus"
    classBonus := ← number 3 "classBonus"
    miscBonus := ← number 4 "miscBonus"
    sources := ← record.required 5 ["sources"] (Json.asList sourceOfJson) }

/-! ## Totals and sources -/

theorem foldl_add (score : DefenseScore) (sources : List (String × Int64)) :
    sources.foldl (fun score source => score.add source.1 source.2) score =
      { score with
        total := score.total + Reckoning.sum (sources.map (·.2))
        sources := score.sources ++ sources } := by
  induction sources generalizing score with
  | nil => simp
  | cons source rest ih =>
    rw [List.foldl_cons, ih]
    simp [add, Int64.add_assoc]

/-- The total of a score made of sources is their sum, and they are its breakdown. -/
theorem ofSources_eq (sources : List (String × Int64)) :
    ofSources sources =
      { total := Reckoning.sum (sources.map (·.2)), sources } := by
  simp [ofSources, foldl_add]

end DefenseScore

end CharacterSheet
