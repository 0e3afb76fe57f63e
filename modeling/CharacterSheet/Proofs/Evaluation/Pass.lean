import CharacterSheet.Evaluation.Pass
import CharacterSheet.Proofs.Evaluation.Diagnostics

/-!
# A pass says what its parts say

A judgement is made in one pass, and its nodes share the stack of busy items and the list of diagnostics.
Every step of it leaves the stack as it found it and only adds to the diagnostics, on whatever way it
ends: that is part of what `Pass.Yields` says of a step, and it is kept by all steps, one by one.

So what a step gives and notes can be told from the stack alone, and it is what `Subject.judge` works out
(`Subject.yields_settle`). The report on a list is the report that is joined of its nodes
(`Subject.report_eq_judgeList`).
-/

namespace CharacterSheet

namespace Pass

/-- With these items busy, and whatever was noted before, the step gives `a`, leaves the same items busy
and notes `ds` behind. -/
def Yields {α : Type} (busy : List OwnedItem) (step : StateM Pass α) (a : α)
    (ds : List Diagnostic) : Prop :=
  ∀ noted, step.run ⟨busy, noted⟩ = (a, ⟨busy, noted ++ ds⟩)

section steps

variable {α β : Type} {busy : List OwnedItem} {step : StateM Pass α} {a : α}
  {ds es : List Diagnostic}

theorem yields_pure (a : α) : Yields busy (pure a) a [] := by
  intro noted
  rw [List.append_nil]
  rfl

theorem yields_note (d : Diagnostic) : Yields busy (note d) () [d] :=
  fun _ => rfl

theorem Yields.bind {next : α → StateM Pass β} {b : β} (h : Yields busy step a ds)
    (hnext : Yields busy (next a) b es) : Yields busy (step >>= next) b (ds ++ es) := by
  intro noted
  have hrun : (step >>= next).run ⟨busy, noted⟩ = (next a).run ⟨busy, noted ++ ds⟩ := by
    rw [StateT.run_bind, h noted]
    rfl
  rw [hrun, hnext, List.append_assoc]

/-- What is only made of the result of a step notes nothing more. -/
theorem Yields.bind_pure {next : α → StateM Pass β} {b : β} (h : Yields busy step a ds)
    (hnext : next a = pure b) : Yields busy (step >>= next) b ds := by
  have := h.bind (hnext ▸ yields_pure b)
  rwa [List.append_nil] at this

theorem yields_forM_note (ds : List Diagnostic) : Yields busy (ds.forM note) () ds := by
  induction ds with
  | nil => exact yields_pure ()
  | cons d rest ih => exact (yields_note d).bind ih

/-- An item that is pushed before a step and popped behind it leaves no trace. -/
theorem Yields.within {o : OwnedItem} {f : α → β} (h : Yields (busy ++ [o]) step a ds) :
    Yields busy (do push o; let a ← step; pop; pure (f a)) (f a) ds := by
  intro noted
  have hpush : (do push o; let a ← step; pop; pure (f a) : StateM Pass β).run ⟨busy, noted⟩ =
      (do let a ← step; pop; pure (f a) : StateM Pass β).run ⟨busy ++ [o], noted⟩ := rfl
  have hpop : (do pop; pure (f a) : StateM Pass β).run ⟨busy ++ [o], noted ++ ds⟩ =
      (f a, ⟨busy, noted ++ ds⟩) :=
    congrArg (fun rest => (f a, Pass.mk rest (noted ++ ds))) List.dropLast_concat
  -- the step gives the stack back as it found it, so the item is on top again when it is popped
  rw [hpush, StateT.run_bind, h noted, ← hpop]
  rfl

end steps

end Pass

open Pass

/-! ## Owned items -/

/-- Asking an owned item gives the verdict on it. -/
theorem OwnedItem.yields_ask {settleList : List Prerequisite → StateM Pass Report}
    {judgeList : List OwnedItem → List Prerequisite → Report} {busy : List OwnedItem}
    {o : OwnedItem}
    (h : Yields (busy ++ [o]) (settleList o.item.prerequisites)
      (judgeList (busy ++ [o]) o.item.prerequisites).undiagnosed
      (judgeList (busy ++ [o]) o.item.prerequisites).diagnostics) :
    Yields busy (o.ask settleList) (o.recheck judgeList busy).stands
      (o.recheck judgeList busy).diagnostics := by
  rw [ask, recheck]
  cases o.item.prerequisites.isEmpty with
  | true => exact yields_pure true
  | false =>
    intro noted
    have hget : ∀ f : Pass → StateM Pass Bool,
        (get >>= f).run ⟨busy, noted⟩ = (f ⟨busy, noted⟩).run ⟨busy, noted⟩ := fun _ => rfl
    rw [if_neg Bool.false_ne_true, if_neg Bool.false_ne_true, hget]
    cases busy.any (·.place == o.place) with
    | true => rfl
    | false => exact h.within noted

namespace Subject

section asking

variable {subject : Subject} {ask : OwnedItem → StateM Pass Bool} {recheck : Recheck}
  {busy : List OwnedItem} (h : ∀ o, Yields busy (ask o) (recheck o).stands (recheck o).diagnostics)
include h

theorem yields_askFirst (subject : Subject) (kind : ItemKind) (name : String) :
    Yields busy (subject.askFirst ask kind name) (subject.recheckFirst recheck kind name).stands
      (subject.recheckFirst recheck kind name).diagnostics := by
  rw [askFirst, recheckFirst]
  cases subject.owned.find? fun o => o.item.kind == kind && o.item.name == name with
  | some o => exact h o
  | none => exact yields_pure false

theorem yields_askAny (os : List OwnedItem) :
    Yields busy (askAny ask os) (recheckAny recheck os).stands
      (recheckAny recheck os).diagnostics := by
  induction os with
  | nil => exact yields_pure false
  | cons o rest ih =>
    rw [askAny, recheckAny]
    have ho := h o
    cases hstands : (recheck o).stands with
    | true =>
      rw [hstands] at ho
      rw [if_pos rfl, hstands]
      exact ho.bind_pure rfl
    | false =>
      rw [hstands] at ho
      rw [if_neg Bool.false_ne_true]
      exact ho.bind ih

theorem yields_askEach (count : UInt32) (os : List OwnedItem) :
    Yields busy (askEach ask count os)
      (count + .ofNat ((os.map recheck).countP (·.stands)))
      ((os.map recheck).flatMap (·.diagnostics)) := by
  induction os generalizing count with
  | nil =>
    rw [askEach, show count + .ofNat (([].map recheck).countP (·.stands)) = count from
      UInt32.add_zero count]
    exact yields_pure count
  | cons o rest ih =>
    rw [askEach, List.map_cons, List.flatMap_cons, List.countP_cons]
    have ho := h o
    cases hstands : (recheck o).stands with
    | true =>
      rw [hstands] at ho
      refine ho.bind ?_
      rw [if_pos rfl, if_pos rfl, Nat.add_comm, UInt32.ofNat_add, ← UInt32.add_assoc]
      exact ih (count + 1)
    | false =>
      rw [hstands] at ho
      refine ho.bind ?_
      rw [if_neg Bool.false_ne_true, if_neg Bool.false_ne_true]
      exact ih count

theorem yields_settleTalent (subject : Subject) (text name : String) :
    Yields busy (subject.settleTalent ask text name)
      (subject.judgeTalent recheck text name).outcome
      (subject.judgeTalent recheck text name).diagnostics := by
  have hname := yields_askFirst h subject .talent name
  simp only [settleTalent, judgeTalent]
  cases hstands : (subject.recheckFirst recheck .talent name).stands with
  | true =>
    rw [hstands] at hname
    exact hname.bind_pure rfl
  | false =>
    rw [hstands] at hname
    have htree := yields_askEach h 0 (subject.talentsOf name)
    rw [UInt32.zero_add] at htree
    exact hname.bind (htree.bind_pure rfl)

end asking

end Subject

/-! ## Nodes -/

/-- A condition that asks no owned item is settled by the judgement on it. -/
theorem Answer.yields_settled (answer : Answer) (busy : List OwnedItem) :
    Yields busy (do answer.diagnostics.forM note; return answer.outcome) answer.outcome
      answer.diagnostics :=
  (yields_forM_note answer.diagnostics).bind_pure rfl

/-- Settling a condition gives the judgement on it. -/
theorem Condition.yields_settle (subject : Subject) (c : Contributions)
    {ask : OwnedItem → StateM Pass Bool} {recheck : Recheck} {busy : List OwnedItem}
    (h : ∀ o, Yields busy (ask o) (recheck o).stands (recheck o).diagnostics) (text : String)
    (condition : Condition) :
    Yields busy (condition.settle subject c ask text)
      (condition.judge subject c recheck text).outcome
      (condition.judge subject c recheck text).diagnostics := by
  cases condition with
  | asset kind name =>
    cases kind with
    | feat | heroicClass | tradition | technique =>
      exact (Subject.yields_askFirst h subject _ name).bind_pure rfl
    | trait => exact (Subject.yields_askAny h (subject.namesakes .trait name)).bind_pure rfl
    | talent => exact Subject.yields_settleTalent h subject text name
    | item | species | trainedSkill | proficiency | gender | equipped =>
      exact Answer.yields_settled _ busy
  | _ => exact Answer.yields_settled _ busy

namespace Subject

/-- Nodes that add to a report what the judgement on each of them says add what it says on all. -/
theorem yields_foldlM {busy : List OwnedItem} {settle : Report → Prerequisite → StateM Pass Report}
    {judge : Prerequisite → Report}
    (h : ∀ before node, Yields busy (settle before node) (before.add (judge node).undiagnosed)
      (judge node).diagnostics) (before : Report) (nodes : List Prerequisite) :
    Yields busy (nodes.foldlM settle before)
      (before.add (Report.join (nodes.map judge)).undiagnosed)
      (Report.join (nodes.map judge)).diagnostics := by
  induction nodes generalizing before with
  | nil =>
    rw [List.foldlM_nil, List.map_nil, Report.add_undiagnosed_join_nil]
    exact yields_pure before
  | cons node rest ih =>
    rw [List.foldlM_cons, List.map_cons, Report.add_undiagnosed_join_cons]
    exact (h before node).bind (ih _)

/-- What holds of every node with these items busy holds of lists. -/
theorem yields_settleList_of {subject : Subject} {c : Contributions} {maxDepth room : Nat}
    {busy : List OwnedItem}
    (h : ∀ before node, Yields busy (subject.settle c maxDepth room before node)
      (before.add (subject.judge c maxDepth room busy node).undiagnosed)
      (subject.judge c maxDepth room busy node).diagnostics) (nodes : List Prerequisite) :
    Yields busy (subject.settleList c maxDepth room nodes)
      (subject.judgeList c maxDepth room busy nodes).undiagnosed
      (subject.judgeList c maxDepth room busy nodes).diagnostics := by
  have := yields_foldlM h {} nodes
  rwa [Report.empty_add] at this

/-- Settling a node adds to the report so far what the judgement on it says. -/
theorem yields_settle (subject : Subject) (c : Contributions) (maxDepth room : Nat)
    (busy : List OwnedItem) (before : Report) (node : Prerequisite) :
    Yields busy (subject.settle c maxDepth room before node)
      (before.add (subject.judge c maxDepth room busy node).undiagnosed)
      (subject.judge c maxDepth room busy node).diagnostics := by
  -- an item is judged with one level less and itself on the stack, so the stack is not fixed
  induction room generalizing busy before node with
  | zero =>
    rw [judge_zero]
    cases node <;> exact (yields_note _).bind_pure rfl
  | succ room ih =>
    have nested := fun busy => yields_settleList_of (ih busy)
    cases node with
    | leaf text condition =>
      rw [judge_leaf]
      have hasked := fun o => OwnedItem.yields_ask (o := o) (nested (busy ++ [o]) _)
      have hcondition := condition.yields_settle subject c hasked text
      rw [Report.undiagnosed_leaf, Report.diagnostics_leaf]
      exact hcondition.bind_pure rfl
    | all text children =>
      rw [judge_all, Report.undiagnosed_all, Report.diagnostics_all]
      exact (nested busy children).bind_pure rfl
    | any text count children =>
      rw [judge_any, Report.undiagnosed_any, Report.diagnostics_any]
      exact (nested busy children).bind_pure rfl

/-- A list of nodes that is settled on any stack gives the report that is joined of the nodes'. -/
theorem yields_settleList (subject : Subject) (c : Contributions) (maxDepth room : Nat)
    (busy : List OwnedItem) (nodes : List Prerequisite) :
    Yields busy (subject.settleList c maxDepth room nodes)
      (subject.judgeList c maxDepth room busy nodes).undiagnosed
      (subject.judgeList c maxDepth room busy nodes).diagnostics :=
  yields_settleList_of (subject.yields_settle c maxDepth room busy) nodes

/-- The report on a list is the judgement on it with no item busy. -/
theorem report_eq_judgeList (subject : Subject) (settings : Settings)
    (nodes : List Prerequisite) :
    subject.report settings nodes =
      subject.judgeList subject.contributions settings.maxDepth.toNat
        (settings.maxDepth.toNat + 1) [] nodes := by
  have hrun := subject.yields_settleList subject.contributions settings.maxDepth.toNat
    (settings.maxDepth.toNat + 1) [] nodes []
  simp only [report]
  rw [hrun]
  rfl

end Subject

end CharacterSheet
