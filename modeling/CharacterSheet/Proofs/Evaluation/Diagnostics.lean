import CharacterSheet.Evaluation.Basic

/-!
# Where the diagnostics of a report come from

Combinations only pass the diagnostics of their children on, whatever becomes of the children. So a
diagnostic is found again in the report on one of the nodes, and that of a verdict on an item in the
report on the item's prerequisites, or it is the loop that the verdict closes.
-/

namespace CharacterSheet

variable {d : Diagnostic}

namespace Report

@[simp] theorem diagnostics_leaf (node : Prerequisite) (answer : Answer) :
    (leaf node answer).diagnostics = answer.diagnostics := by
  obtain ⟨outcome, diagnostics⟩ := answer
  cases outcome <;> rfl

@[simp] theorem diagnostics_all (node : Prerequisite) (children : Report) :
    (all node children).diagnostics = children.diagnostics := by
  rw [all]
  split <;> rfl

@[simp] theorem diagnostics_any (node : Prerequisite) (count : UInt32) (children : Report) :
    (any node count children).diagnostics = children.diagnostics := by
  rw [any]
  split <;> rfl

theorem undiagnosed_leaf (node : Prerequisite) (answer : Answer) :
    (leaf node answer).undiagnosed = leaf node ⟨answer.outcome, []⟩ := by
  obtain ⟨outcome, diagnostics⟩ := answer
  cases outcome <;> rfl

theorem undiagnosed_all (node : Prerequisite) (children : Report) :
    (all node children).undiagnosed = all node children.undiagnosed := by
  rw [all, all, apply_ite undiagnosed]
  rfl

theorem undiagnosed_any (node : Prerequisite) (count : UInt32) (children : Report) :
    (any node count children).undiagnosed = any node count children.undiagnosed := by
  rw [any, any, apply_ite undiagnosed]
  rfl

end Report

namespace Subject

variable {subject : Subject} {c : Contributions} {maxDepth room : Nat} {busy : List OwnedItem}
  {nodes : List Prerequisite}

/-- A list has the diagnostics of its nodes. -/
theorem diagnostics_judgeList :
    (subject.judgeList c maxDepth room busy nodes).diagnostics =
      nodes.flatMap fun node => (subject.judge c maxDepth room busy node).diagnostics := by
  simp only [judgeList, Report.join, List.flatMap_map]

theorem mem_diagnostics_judgeList :
    d ∈ (subject.judgeList c maxDepth room busy nodes).diagnostics ↔
      ∃ node ∈ nodes, d ∈ (subject.judge c maxDepth room busy node).diagnostics := by
  rw [diagnostics_judgeList, List.mem_flatMap]

/-- A leaf has the diagnostics of its condition. -/
theorem diagnostics_judge_leaf {text : String} {condition : Condition} :
    (subject.judge c maxDepth (room + 1) busy (.leaf text condition)).diagnostics =
      (condition.judge subject c (OwnedItem.recheck (subject.judgeList c maxDepth room) busy)
        text).diagnostics := by
  simp

/-- A combination has the diagnostics of its children. -/
theorem diagnostics_judge_all {text : String} :
    (subject.judge c maxDepth (room + 1) busy (.all text nodes)).diagnostics =
      (subject.judgeList c maxDepth room busy nodes).diagnostics := by
  simp

theorem diagnostics_judge_any {text : String} {count : UInt32} :
    (subject.judge c maxDepth (room + 1) busy (.any text count nodes)).diagnostics =
      (subject.judgeList c maxDepth room busy nodes).diagnostics := by
  simp

end Subject

/-- A verdict either closes a loop or passes on what was found about the prerequisites. -/
theorem OwnedItem.mem_diagnostics_recheck {judgeList : List OwnedItem → List Prerequisite → Report}
    {busy : List OwnedItem} {owned : OwnedItem}
    (h : d ∈ (owned.recheck judgeList busy).diagnostics) :
    (busy.any (·.place == owned.place) = true ∧
        d = .cycle ((busy ++ [owned]).map (·.item.name))) ∨
      (busy.any (·.place == owned.place) = false ∧ owned.item.prerequisites.isEmpty = false ∧
        d ∈ (judgeList (busy ++ [owned]) owned.item.prerequisites).diagnostics) := by
  rcases owned.recheck_eq busy with heq | ⟨hbusy, heq⟩ | ⟨hbusy, hasks, heq⟩
  · rw [heq] at h
    cases h
  · rw [heq] at h
    exact Or.inl ⟨hbusy, List.mem_singleton.mp h⟩
  · rw [heq] at h
    exact Or.inr ⟨hbusy, hasks, h⟩

end CharacterSheet
