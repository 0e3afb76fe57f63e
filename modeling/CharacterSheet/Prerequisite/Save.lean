import CharacterSheet.Json.Writer
import CharacterSheet.Prerequisite.Authored
import CharacterSheet.Prerequisite.Tag

/-!
# Saving prerequisites

A loaded node goes back to the shape that content has it in, with its tag in the canonical spelling
and its numbers written anew. Only the fields that its tag uses are filled in.
-/

namespace CharacterSheet

/-- The threshold as a requirement has it. -/
def Threshold.toText : Threshold → String
  | .fixed n => Text.integer n.toInt
  | .attributeSum key => "@" ++ key
  | .abilityScore ability => "@" ++ ability.abbreviation ++ "TOTAL"

/-- The rule as a requirement has it. -/
def Special.toText : Special → String
  | .notDroid => "not a droid"
  | .droid => "is a droid"
  | .builtLightsaber => "Has Built Lightsaber"
  | .other text => text

/-- The requirement of a condition. -/
def Condition.requirement : Condition → Option String
  | .age _ _ => none
  | .characterLevel least => some (Text.natural least.toNat)
  | .baseAttackBonus least => some (Text.integer least.toInt)
  | .darkSideScore least => some least.toText
  | .asset _ name => some name
  | .techniqueCount least => some (Text.natural least.toNat)
  | .attributeSum key least => some (key ++ " " ++ Text.integer least.toInt)
  | .special rule => some rule.toText
  | .unsupported _ requirement => requirement

/-- An unsigned number as a field. -/
def AuthoredField.ofUInt32 (n : UInt32) : AuthoredField :=
  .integer (Int64.ofNat n.toNat)

/-- The ends of an age range. -/
def Condition.ageEnds : Condition → Option AuthoredField × Option AuthoredField
  | .age low high => (some (.ofUInt32 low), high.map .ofUInt32)
  | _ => (none, none)

namespace Prerequisite

mutual

/-- The node as content has it. -/
def save : Prerequisite → AuthoredNode
  | leaf text condition => {
      tag := condition.tagText
      text
      requirement := condition.requirement.map .text
      low := condition.ageEnds.1
      high := condition.ageEnds.2 }
  | all text children => { tag := Tag.all.text, text, children := saveList children }
  | any text count children =>
    { tag := Tag.any.text, text, count := some (.ofUInt32 count), children := saveList children }

/-- A list of nodes as content has it. -/
def saveList : List Prerequisite → List AuthoredNode
  | [] => []
  | node :: rest => save node :: saveList rest

end

/-- A list is saved node by node. -/
theorem saveList_eq_map (nodes : List Prerequisite) : saveList nodes = nodes.map save := by
  induction nodes with
  | nil => rfl
  | cons node rest ih => rw [saveList, ih, List.map_cons]

/-- The node as a file has it. -/
def toJson (node : Prerequisite) : Json :=
  node.save.toJson

/-- The text of a list of nodes. -/
def listToText (nodes : List Prerequisite) : String :=
  (Json.list toJson nodes).render

end Prerequisite

end CharacterSheet
