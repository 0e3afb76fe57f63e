import CharacterSheet.Evaluation.Basic
import CharacterSheet.Proofs.Evaluation.Improvement

/-!
# How much nodes can count

A node that is met counts one, unless it asks for talents by the name of a tree: then it counts all talents
of the tree at most. So what a judgement can add up is bounded by the nodes and by the talents on the sheet
(`Prerequisite.largestCounts`), whatever it finds out about the talents.

Counts have 32 bits. It takes some four billion talents for a tally to leave that range, or as many
together under a node that asks for a number of its children, and a build with overflow checks would stop
there. `Subject.CountsFit` says that this cannot happen, and then every count is exact.
-/

namespace CharacterSheet

namespace Prerequisite

/-- The most that a node can count for a subject. -/
def most (subject : Subject) : Prerequisite → Nat
  | leaf _ (.asset .talent name) => max 1 (subject.talentsOf name).length
  | _ => 1

/-- The most that nodes can count together. -/
def mostOf (subject : Subject) : List Prerequisite → Nat
  | [] => 0
  | node :: rest => node.most subject + mostOf subject rest

mutual

/-- The largest counts that a judgement of a node can come by: one for each leaf, and one for each
combination that asks for a number of its children. -/
def largestCounts (subject : Subject) : Prerequisite → List Nat
  | leaf text condition => [(leaf text condition).most subject]
  | all _ children => largestCountsOf subject children
  | any _ _ children => mostOf subject children :: largestCountsOf subject children

/-- The largest counts that a judgement of the nodes of a list can come by. -/
def largestCountsOf (subject : Subject) : List Prerequisite → List Nat
  | [] => []
  | node :: rest => largestCounts subject node ++ largestCountsOf subject rest

end

theorem mem_largestCountsOf {subject : Subject} {n : Nat} {nodes : List Prerequisite} :
    n ∈ largestCountsOf subject nodes ↔ ∃ node ∈ nodes, n ∈ node.largestCounts subject := by
  induction nodes with
  | nil => simp [largestCountsOf]
  | cons node rest ih => simp [largestCountsOf, ih]

end Prerequisite

namespace Subject

/-- The largest counts that a judgement of a list of nodes or of an owned item can come by. -/
def largestCounts (subject : Subject) (nodes : List Prerequisite) : List Nat :=
  Prerequisite.largestCountsOf subject nodes ++
    subject.items.flatMap fun item => Prerequisite.largestCountsOf subject item.prerequisites

/-- No count leaves its range when the nodes and the owned items are judged. -/
def CountsFit (subject : Subject) (nodes : List Prerequisite) : Prop :=
  ∀ n ∈ subject.largestCounts nodes, n < UInt32.size

instance (subject : Subject) (nodes : List Prerequisite) : Decidable (subject.CountsFit nodes) :=
  inferInstanceAs (Decidable (∀ n ∈ subject.largestCounts nodes, n < UInt32.size))

theorem CountsFit.of_node {subject : Subject} {nodes : List Prerequisite} {node : Prerequisite}
    (h : subject.CountsFit nodes) (hnode : node ∈ nodes) :
    ∀ n ∈ node.largestCounts subject, n < UInt32.size :=
  fun n hn => h n (List.mem_append_left _ (Prerequisite.mem_largestCountsOf.mpr ⟨node, hnode, hn⟩))

theorem CountsFit.of_item {subject : Subject} {nodes : List Prerequisite} {item : Item}
    (h : subject.CountsFit nodes) (hitem : item ∈ subject.items) :
    ∀ n ∈ Prerequisite.largestCountsOf subject item.prerequisites, n < UInt32.size :=
  fun n hn => h n (List.mem_append_right _ (List.mem_flatMap.mpr ⟨item, hitem, hn⟩))

end Subject

/-! ## Counts of reports -/

/-- The outcome counts no more than so much. -/
def Outcome.CountsAtMost (n : Nat) : Outcome → Prop
  | .met count => count.toNat ≤ n
  | .entry _ => True

theorem Outcome.countsAtMost_ofBool (text : String) (isMet : Bool) :
    (ofBool text isMet).CountsAtMost 1 := by
  cases isMet with
  | false => trivial
  | true => exact Nat.le_refl 1

/-- Asking for talents counts no more of them than there are in the tree. -/
theorem Subject.countsAtMost_judgeTalent (subject : Subject) (recheck : Recheck)
    (text name : String) : (subject.judgeTalent recheck text name).outcome.CountsAtMost
      (max 1 (subject.talentsOf name).length) := by
  simp only [judgeTalent]
  split
  · exact Nat.le_max_left _ _
  · have hle : ((subject.talentsOf name).map recheck).countP (·.stands) ≤
        (subject.talentsOf name).length := by
      simpa using List.countP_le_length (p := (·.stands)) (l := (subject.talentsOf name).map recheck)
    unfold Outcome.ofCount
    split
    · refine Nat.le_trans ?_ (Nat.le_trans hle (Nat.le_max_right _ _))
      rw [UInt32.toNat_ofNat']
      exact Nat.mod_le _ _
    · trivial

theorem Condition.countsAtMost_judge (subject : Subject) (c : Contributions) (recheck : Recheck)
    (text : String) (condition : Condition) :
    (condition.judge subject c recheck text).outcome.CountsAtMost
      ((Prerequisite.leaf text condition).most subject) := by
  cases condition with
  | age low high =>
    rw [judge]
    split
    · exact Nat.le_refl 1
    · trivial
  | asset kind name =>
    cases kind with
    | talent => exact subject.countsAtMost_judgeTalent recheck text name
    | _ => exact Outcome.countsAtMost_ofBool _ _
  | special rule =>
    cases rule with
    | notDroid | droid => exact Outcome.countsAtMost_ofBool _ _
    | builtLightsaber | other => trivial
  | unsupported => trivial
  | _ => exact Outcome.countsAtMost_ofBool _ _

namespace Report

theorem tally_leaf_le {node : Prerequisite} {answer : Answer} {n : Nat}
    (h : answer.outcome.CountsAtMost n) : (leaf node answer).tally ≤ n := by
  obtain ⟨outcome, diagnostics⟩ := answer
  cases outcome with
  | met count => exact h
  | entry shortfall => exact Nat.zero_le n

theorem tally_all_le (node : Prerequisite) (children : Report) : (all node children).tally ≤ 1 := by
  cases hblocked : children.isBlocked with
  | false =>
    rw [all_of_passes hblocked]
    exact Nat.le_refl 1
  | true =>
    rw [all_of_isBlocked hblocked]
    exact Nat.zero_le 1

theorem tally_any_le (node : Prerequisite) (count : UInt32) (children : Report) :
    (any node count children).tally ≤ 1 := by
  by_cases hmet : count ≤ children.count
  · rw [any_of_le hmet]
    exact Nat.le_refl 1
  · rw [tally_any_of_not_le hmet]
    exact Nat.zero_le 1

/-- Nodes count together no more than the most of each of them. -/
theorem tally_join_map_le {subject : Subject} {judge : Prerequisite → Report}
    (h : ∀ node, (judge node).tally ≤ node.most subject) (nodes : List Prerequisite) :
    (join (nodes.map judge)).tally ≤ Prerequisite.mostOf subject nodes := by
  induction nodes with
  | nil => exact Nat.le_refl 0
  | cons node rest ih =>
    rw [List.map_cons, tally_join_cons]
    exact Nat.add_le_add (h node) ih

end Report

namespace Subject

/-- A node counts no more than the most that it can. -/
theorem tally_judge_le (subject : Subject) (c : Contributions) (maxDepth room : Nat)
    (busy : List OwnedItem) (node : Prerequisite) :
    (subject.judge c maxDepth room busy node).tally ≤ node.most subject := by
  cases room with
  | zero =>
    rw [judge_zero]
    exact Nat.zero_le _
  | succ room =>
    cases node with
    | leaf text condition =>
      rw [judge_leaf]
      exact Report.tally_leaf_le (condition.countsAtMost_judge subject c _ text)
    | all text children =>
      rw [judge_all]
      exact Report.tally_all_le _ _
    | any text count children =>
      rw [judge_any]
      exact Report.tally_any_le _ _ _

end Subject

end CharacterSheet
