import CharacterSheet.Proofs.Evaluation.Shape

/-!
# Every node is accounted for

A node that is met is credited once, and leaves notices at most. A node that is not met leaves one entry
and no credit (`Report.AccountsFor`). That holds of a combination whatever became of its children, and so
of every node at every level, whichever items are busy.

The nodes of a list share one pass. But each of them leaves the busy items as it found them and only adds
to the diagnostics (`Subject.yields_settle`), so the report is made up of such accounts, one for each node
and in their order, and what stands before or behind a node does not bear on it.
-/

namespace CharacterSheet

namespace Report

/-- The node is credited once and nothing blocks, or it is not credited and one entry stands for it. -/
def AccountsFor (r : Report) (node : Prerequisite) : Prop :=
  (∃ count, 1 ≤ count ∧ r.credits = [⟨node, count⟩] ∧
      ∀ entry ∈ r.shortfalls, entry.isBlocking = false) ∨
    r.credits = [] ∧ r.shortfalls.length = 1

theorem accountsFor_leaf (node : Prerequisite) {answer : Answer} (h : answer.outcome.IsPlain) :
    (leaf node answer).AccountsFor node := by
  obtain ⟨outcome, diagnostics⟩ := answer
  cases outcome with
  | met count => exact Or.inl ⟨count, h, rfl, by simp [leaf]⟩
  | entry shortfall => exact Or.inr ⟨rfl, rfl⟩

/-- What is folded becomes one entry. -/
theorem length_fold {label : String} {isBlocking : Bool} {entries : List Shortfall}
    (h : entries ≠ []) : (fold label isBlocking entries).length = 1 := by
  have hle := length_fold_le label isBlocking entries
  have hpos : 0 < (fold label isBlocking entries).length :=
    List.length_pos_iff.mpr (mt fold_eq_nil_iff.mp h)
  omega

theorem isBlocking_of_mem_notices {r : Report} {entry : Shortfall} (h : entry ∈ r.notices) :
    entry.isBlocking = false := by
  simpa using (List.mem_filter.mp h).2

/-- A node that asks for all of its children is accounted for, whatever became of them. -/
theorem accountsFor_all (node : Prerequisite) (children : Report) :
    (all node children).AccountsFor node := by
  cases hblocked : children.isBlocked with
  | false =>
    rw [all_of_passes hblocked]
    exact Or.inl ⟨1, UInt32.le_refl 1, rfl, fun _ => isBlocking_of_mem_notices⟩
  | true =>
    obtain ⟨entry, hentry, -⟩ := List.any_eq_true.mp hblocked
    rw [all_of_isBlocked hblocked]
    exact Or.inr ⟨rfl, length_fold (List.ne_nil_of_mem hentry)⟩

/-- So is a node that asks for a number of them. -/
theorem accountsFor_any (node : Prerequisite) (count : UInt32) (children : Report) :
    (any node count children).AccountsFor node := by
  by_cases hmet : count ≤ children.count
  · rw [any_of_le hmet]
    exact Or.inl ⟨1, UInt32.le_refl 1, rfl, fun _ => isBlocking_of_mem_notices⟩
  · refine Or.inr ?_
    rw [any, if_neg hmet]
    refine ⟨rfl, ?_⟩
    cases hempty : children.shortfalls with
    | nil => rfl
    | cons entry rest => exact length_fold (List.cons_ne_nil entry rest)

end Report

namespace Subject

/-- Every node is accounted for, at every level and whichever items are busy. -/
theorem accountsFor_judge (subject : Subject) (c : Contributions) (maxDepth room : Nat)
    (busy : List OwnedItem) (node : Prerequisite) :
    (subject.judge c maxDepth room busy node).AccountsFor node := by
  cases room with
  | zero =>
    rw [judge_zero]
    exact Or.inr ⟨rfl, rfl⟩
  | succ room =>
    cases node with
    | leaf text condition =>
      rw [judge_leaf]
      exact Report.accountsFor_leaf _ (condition.isPlain_outcome_judge _ _ _ text)
    | all text children =>
      rw [judge_all]
      exact Report.accountsFor_all _ _
    | any text count children =>
      rw [judge_any]
      exact Report.accountsFor_any _ count _

theorem report_append (subject : Subject) (settings : Settings) (nodes more : List Prerequisite) :
    subject.report settings (nodes ++ more) = {
      shortfalls := (subject.report settings nodes).shortfalls ++
        (subject.report settings more).shortfalls
      credits := (subject.report settings nodes).credits ++ (subject.report settings more).credits
      diagnostics := (subject.report settings nodes).diagnostics ++
        (subject.report settings more).diagnostics } := by
  simp only [report_eq_judgeList, judgeList, List.map_append, Report.join_append]

/-- The report on a list is that on its nodes, one after the other: a list in two parts has the reports
on the parts joined, and is blocked if one of them is, and each node is accounted for. -/
theorem report_append_and_accountsFor (subject : Subject) (settings : Settings) :
    (∀ nodes more : List Prerequisite,
      (subject.report settings (nodes ++ more)).shortfalls =
          (subject.report settings nodes).shortfalls ++ (subject.report settings more).shortfalls ∧
        (subject.report settings (nodes ++ more)).credits =
          (subject.report settings nodes).credits ++ (subject.report settings more).credits ∧
        (subject.report settings (nodes ++ more)).diagnostics =
          (subject.report settings nodes).diagnostics ++
            (subject.report settings more).diagnostics ∧
        (subject.report settings (nodes ++ more)).isBlocked =
          ((subject.report settings nodes).isBlocked || (subject.report settings more).isBlocked)) ∧
    ∀ node : Prerequisite, (subject.report settings [node]).AccountsFor node := by
  refine ⟨fun nodes more => ?_, fun node => ?_⟩
  · rw [report_append]
    exact ⟨rfl, rfl, rfl, List.any_append⟩
  · have hsingle := Report.join_singleton
      (subject.judge subject.contributions settings.maxDepth.toNat (settings.maxDepth.toNat + 1) []
        node)
    rw [report_eq_judgeList, judgeList, List.map_singleton, hsingle]
    exact subject.accountsFor_judge _ _ _ _ node

end Subject

end CharacterSheet
