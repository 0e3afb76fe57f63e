import CharacterSheet.Ability
import CharacterSheet.Attribute
import CharacterSheet.ItemKind

/-!
# Prerequisites

What a character must meet before it may take something. A prerequisite is a tree: its leaves are
conditions, and its inner nodes ask for all of their children or for a number of them. Every node
carries the text that is shown when it is not met.

The conditions make up a type of their own, with no recursion in it, so that what is said about them
needs no induction.
-/

namespace CharacterSheet

/-- The least value that a number must have. It may refer to the character it is asked of. -/
inductive Threshold where
  | fixed (n : Int64)
  /-- the sum of what the character has under an attribute key -/
  | attributeSum (key : AttributeKey)
  /-- one of its ability scores -/
  | abilityScore (ability : Ability)
  deriving DecidableEq

/-- What a character may have that goes by a name. -/
inductive Asset where
  /-- something it carries -/
  | item
  | species
  | trainedSkill
  | feat
  | heroicClass
  | trait
  /-- a talent, or any talent of a tree -/
  | talent
  | tradition
  | technique
  /-- with a group of weapons or of armor -/
  | proficiency
  | gender
  /-- something it wears or wields -/
  | equipped
  deriving DecidableEq

/-- Requirements in free text that have a meaning. -/
inductive Special where
  | notDroid
  | droid
  /-- nothing on a sheet can tell; it is reported and stands in nobody's way -/
  | builtLightsaber
  | other (text : String)
  deriving DecidableEq

/-- What a leaf asks of a character. -/
inductive Condition where
  /-- both ends belong to the range, and without `high` it has no upper end -/
  | age (low : UInt32) (high : Option UInt32)
  | characterLevel (least : UInt32)
  | baseAttackBonus (least : Int64)
  | darkSideScore (least : Threshold)
  | asset (kind : Asset) (name : String)
  /-- so many force techniques, whichever they are -/
  | techniqueCount (least : UInt32)
  | attributeSum (key : AttributeKey) (least : Int64)
  | special (rule : Special)
  /-- a tag outside the vocabulary, kept as it was authored -/
  | unsupported (tag : String) (requirement : Option String)
  deriving DecidableEq

/-- A tree of conditions. -/
inductive Prerequisite where
  | leaf (text : String) (condition : Condition)
  /-- every child must be met -/
  | all (text : String) (children : List Prerequisite)
  /-- the children that are met must count to `count` -/
  | any (text : String) (count : UInt32) (children : List Prerequisite)

namespace Prerequisite

/-- The text that is shown when the node is not met. -/
def text : Prerequisite → String
  | leaf text _ | all text _ | any text _ _ => text

/-- The nodes right below. -/
def children : Prerequisite → List Prerequisite
  | leaf _ _ => []
  | all _ children | any _ _ children => children

/-! ## Height -/

mutual

/-- How many combinations stand above one another. -/
def height : Prerequisite → Nat
  | leaf _ _ => 0
  | all _ children | any _ _ children => heightList children + 1

/-- The same in the highest node of a list. -/
def heightList : List Prerequisite → Nat
  | [] => 0
  | node :: rest => max node.height (heightList rest)

end

/-- No node of a list is higher than the list. -/
theorem height_le_heightList {node : Prerequisite} {nodes : List Prerequisite} (h : node ∈ nodes) :
    node.height ≤ heightList nodes := by
  induction nodes with
  | nil => cases h
  | cons first rest ih =>
    rw [heightList]
    rcases List.mem_cons.mp h with rfl | h
    · exact Nat.le_max_left _ _
    · exact Nat.le_trans (ih h) (Nat.le_max_right _ _)

/-! ## Equality is decidable -/

mutual

/-- Compares two trees. -/
def decEq : (p q : Prerequisite) → Decidable (p = q)
  | leaf s c, leaf t d =>
    if h : s = t ∧ c = d then isTrue (by simp [h]) else isFalse (by simpa using h)
  | all s ps, all t qs =>
    match decEqList ps qs with
    | isTrue hs => if h : s = t then isTrue (by simp [h, hs]) else isFalse (by simp [h])
    | isFalse hs => isFalse (by simp [hs])
  | any s m ps, any t n qs =>
    match decEqList ps qs with
    | isTrue hs =>
      if h : s = t ∧ m = n then isTrue (by simp [h, hs]) else isFalse (by simp [hs]; simpa using h)
    | isFalse hs => isFalse (by simp [hs])
  | leaf _ _, all _ _ | leaf _ _, any _ _ _ | all _ _, leaf _ _ | all _ _, any _ _ _
  | any _ _ _, leaf _ _ | any _ _ _, all _ _ => isFalse (by simp)

/-- Compares two lists of trees. -/
def decEqList : (ps qs : List Prerequisite) → Decidable (ps = qs)
  | [], [] => isTrue rfl
  | [], _ :: _ | _ :: _, [] => isFalse (by simp)
  | p :: ps, q :: qs =>
    match decEq p q, decEqList ps qs with
    | isTrue h, isTrue hs => isTrue (by simp [h, hs])
    | isFalse h, _ => isFalse (by simp [h])
    | _, isFalse hs => isFalse (by simp [hs])

end

instance : DecidableEq Prerequisite := decEq

end Prerequisite

end CharacterSheet
