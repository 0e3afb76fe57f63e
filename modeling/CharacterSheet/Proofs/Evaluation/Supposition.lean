import CharacterSheet.Proofs.Evaluation.Gain
import Mathlib.Order.FixedPoints
import Mathlib.Data.Fintype.Order

/-!
# Judging under a supposition

A judgement finds out whether an owned item stands by judging its prerequisites. Here it is supposed
instead which items stand, and nothing is judged but the nodes themselves: no item is busy, and no
node is too deep (`Subject.supposing`). A supposition can be held against itself: which items meet
their prerequisites under it (`Subject.reconsider`)?

To suppose more items can only make reports better, as long as no talent goes by the name of a tree.
Where one does, it counts one for its name, which may be less than the tree would count without it. And
the counts under which the items stand must not leave their range (`Subject.CountsFit`), as they would
with four billion talents.
-/

namespace CharacterSheet

/-- Which owned items are supposed to stand. -/
abbrev Supposition := OwnedItem → Bool

/-- An item stands if it asks for nothing or is supposed to stand. -/
def Recheck.suppose (supposed : Supposition) : Recheck :=
  fun o => ⟨o.item.prerequisites.isEmpty || supposed o, []⟩

namespace Subject

mutual

/-- The report on a node, given how owned items are asked. -/
def judgeWith (subject : Subject) (c : Contributions) (recheck : Recheck) : Prerequisite → Report
  | .leaf text condition =>
    Report.leaf (.leaf text condition) (condition.judge subject c recheck text)
  | .all text children =>
    Report.all (.all text children) (Report.join (judgeEachWith subject c recheck children))
  | .any text count children =>
    Report.any (.any text count children) count
      (Report.join (judgeEachWith subject c recheck children))

/-- The report on each node of a list, given how owned items are asked. -/
def judgeEachWith (subject : Subject) (c : Contributions) (recheck : Recheck) :
    List Prerequisite → List Report
  | [] => []
  | node :: rest => judgeWith subject c recheck node :: judgeEachWith subject c recheck rest

end

/-- The report on a list of nodes under a supposition. -/
def supposing (subject : Subject) (supposed : Supposition) (nodes : List Prerequisite) : Report :=
  Report.join (subject.judgeEachWith subject.contributions (.suppose supposed) nodes)

/-- The owned items that ask for nothing or meet what they ask for under a supposition. -/
def reconsider (subject : Subject) (supposed : Supposition) : Supposition :=
  fun o => decide (o ∈ subject.owned) &&
    (o.item.prerequisites.isEmpty || (subject.supposing supposed o.item.prerequisites).passes)

/-- No talent of the subject goes by the name of a tree that one of its talents counts for. -/
def NamesTalentsApart (subject : Subject) : Prop :=
  ∀ talent ∈ subject.items, talent.kind = .talent →
    ∀ other ∈ subject.items, other.kind = .talent → talent.name ∉ other.trees

instance (subject : Subject) : Decidable subject.NamesTalentsApart :=
  inferInstanceAs (Decidable (∀ talent ∈ subject.items, talent.kind = .talent →
    ∀ other ∈ subject.items, other.kind = .talent → talent.name ∉ other.trees))

/-! ## More items, better reports -/

section monotone

variable {subject : Subject} {recheck recheck' : Recheck}

/-- Where no talent goes by the name of a tree, no talent can take the place of a tree. -/
theorem NamesTalentsApart.keepsTallies (apart : subject.NamesTalentsApart) (names : List String) :
    subject.KeepsTallies subject names := by
  intro talent htalent hkind _
  have hnone : subject.talentsOf talent.name = [] := by
    refine List.filter_eq_nil_iff.mpr fun o ho htree => ?_
    rw [Bool.and_eq_true, beq_iff_eq, Item.isInTree_iff] at htree
    exact apart talent htalent hkind o.item (item_mem_of_mem_owned ho) htree.1 htree.2
  rw [hnone]
  exact Nat.zero_le _

/-- A node counts no more than the most that it can. -/
theorem tally_judgeWith_le (c : Contributions) (recheck : Recheck) (node : Prerequisite) :
    (subject.judgeWith c recheck node).tally ≤ node.most subject := by
  cases node with
  | leaf text condition => exact Report.tally_leaf_le (condition.countsAtMost_judge subject c _ text)
  | all text children => exact Report.tally_all_le _ _
  | any text count children => exact Report.tally_any_le _ _ _

theorem tally_judgeEachWith_le (c : Contributions) (recheck : Recheck) (nodes : List Prerequisite) :
    (Report.join (subject.judgeEachWith c recheck nodes)).tally ≤
      Prerequisite.mostOf subject nodes := by
  induction nodes with
  | nil => exact Nat.le_refl 0
  | cons node rest ih =>
    rw [judgeEachWith, Report.tally_join_cons]
    exact Nat.add_le_add (tally_judgeWith_le c recheck node) ih

mutual

/-- With more items that stand, the report on a node is better. -/
theorem improvesTo_judgeWith (apart : subject.NamesTalentsApart) (c : Contributions)
    (more : ∀ o ∈ subject.owned, (recheck o).stands = true → (recheck' o).stands = true)
    (bound : Nat) : (node : Prerequisite) →
      (∀ n ∈ node.largestCounts subject, n < UInt32.size) →
      Report.ImprovesTo bound (subject.judgeWith c recheck node)
        (subject.judgeWith c recheck' node)
  | .leaf text condition, fits =>
    (GainsTo.refl subject).improvesTo_leaf c (.leaf text condition) text condition
      (fits _ List.mem_cons_self) (apart.keepsTallies _) more
  | .all _ children, fits => (improvesTo_judgeEachWith apart c more 0 children fits).all _ _
  | .any _ count children, fits => by
    obtain ⟨htogether, hchildren⟩ := List.forall_mem_cons.mp fits
    refine (improvesTo_judgeEachWith apart c more count.toNat children hchildren).any ?_ _ _
    exact Nat.lt_of_le_of_lt (tally_judgeEachWith_le c recheck' children) htogether

theorem improvesTo_judgeEachWith (apart : subject.NamesTalentsApart) (c : Contributions)
    (more : ∀ o ∈ subject.owned, (recheck o).stands = true → (recheck' o).stands = true)
    (bound : Nat) : (nodes : List Prerequisite) →
      (∀ n ∈ Prerequisite.largestCountsOf subject nodes, n < UInt32.size) →
      Report.ImprovesTo bound (Report.join (subject.judgeEachWith c recheck nodes))
        (Report.join (subject.judgeEachWith c recheck' nodes))
  | [], _ => Report.ImprovesTo.refl _ _
  | node :: rest, fits => by
    obtain ⟨hnode, hrest⟩ := List.forall_mem_append.mp fits
    exact (improvesTo_judgeWith apart c more bound node hnode).join_cons
      (improvesTo_judgeEachWith apart c more bound rest hrest)

end

/-- What passes under a supposition passes if more is supposed. -/
theorem passes_supposing (apart : subject.NamesTalentsApart) {supposed supposed' : Supposition}
    (h : supposed ≤ supposed') {nodes : List Prerequisite}
    (fits : ∀ n ∈ Prerequisite.largestCountsOf subject nodes, n < UInt32.size)
    (hpasses : (subject.supposing supposed nodes).passes = true) :
    (subject.supposing supposed' nodes).passes = true := by
  refine (improvesTo_judgeEachWith apart subject.contributions (fun o _ ho => ?_) 0 nodes
    fits).passes hpasses
  rw [Recheck.suppose, Bool.or_eq_true] at ho ⊢
  exact ho.imp_right (h o)

/-- Supposing more lets more items meet their prerequisites. -/
theorem monotone_reconsider (apart : subject.NamesTalentsApart) (fits : subject.CountsFit []) :
    Monotone subject.reconsider := by
  intro supposed supposed' h o ho
  rw [reconsider, Bool.and_eq_true, Bool.or_eq_true] at ho ⊢
  refine ⟨ho.1, ho.2.imp_right (passes_supposing apart h (fits.of_item ?_))⟩
  exact item_mem_of_mem_owned (of_decide_eq_true ho.1)

end monotone

end Subject

end CharacterSheet
