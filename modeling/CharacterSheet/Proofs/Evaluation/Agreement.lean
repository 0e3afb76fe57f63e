import CharacterSheet.Proofs.Evaluation.Asking
import CharacterSheet.Proofs.Evaluation.Diagnostics

/-!
# Reports that say the same

Two reports agree if they have the same entries and the same credits, and they match if their
diagnostics are related as well. Reports are made of answers and of other reports: a combination
looks at the entries and the credits of its children, and passes their diagnostics on. So reports
agree if what they are made of does, and match if it does.
-/

namespace CharacterSheet

namespace Report

variable {r r' : Report}

/-! ## Reports that agree -/

/-- The reports differ in diagnostics at most. -/
structure Agrees (r r' : Report) : Prop where
  shortfalls : r.shortfalls = r'.shortfalls
  credits : r.credits = r'.credits

theorem Agrees.isBlocked (h : r.Agrees r') : r.isBlocked = r'.isBlocked := by
  rw [Report.isBlocked, Report.isBlocked, h.shortfalls]

theorem Agrees.passes (h : r.Agrees r') : r.passes = r'.passes := by
  rw [Report.passes, Report.passes, h.isBlocked]

theorem Agrees.notices (h : r.Agrees r') : r.notices = r'.notices := by
  rw [Report.notices, Report.notices, h.shortfalls]

theorem Agrees.count (h : r.Agrees r') : r.count = r'.count := by
  rw [Report.count, Report.count, h.credits]

theorem agrees_leaf (node : Prerequisite) {answer answer' : Answer}
    (h : answer.outcome = answer'.outcome) : (leaf node answer).Agrees (leaf node answer') := by
  rw [leaf, leaf, h]
  split <;> exact ⟨rfl, rfl⟩

theorem Agrees.all (h : r.Agrees r') (node : Prerequisite) :
    (Report.all node r).Agrees (Report.all node r') := by
  rw [Report.all, Report.all, h.passes, h.notices, h.shortfalls]
  split <;> exact ⟨rfl, rfl⟩

theorem Agrees.any (h : r.Agrees r') (node : Prerequisite) (count : UInt32) :
    (Report.any node count r).Agrees (Report.any node count r') := by
  rw [Report.any, Report.any, h.count, h.notices, h.shortfalls, h.isBlocked]
  split <;> exact ⟨rfl, rfl⟩

theorem Agrees.join_cons {rs rs' : List Report} (h : r.Agrees r')
    (hs : (join rs).Agrees (join rs')) : (join (r :: rs)).Agrees (join (r' :: rs')) where
  shortfalls := by
    have := hs.shortfalls
    simp only [join, List.flatMap_cons] at this ⊢
    rw [h.shortfalls, this]
  credits := by
    have := hs.credits
    simp only [join, List.flatMap_cons] at this ⊢
    rw [h.credits, this]

/-! ## Reports that match -/

/-- The reports agree, and what is wrong with the content according to them is related by `R`. -/
structure Matches (R : List Diagnostic → List Diagnostic → Prop) (r r' : Report) : Prop extends
    Agrees r r' where
  diagnostics : R r.diagnostics r'.diagnostics

variable {R : List Diagnostic → List Diagnostic → Prop}

theorem eq_of_matches (h : r.Matches Eq r') : r = r' := by
  obtain ⟨shortfalls, credits, diagnostics⟩ := r
  obtain ⟨⟨hshortfalls, hcredits⟩, hdiagnostics⟩ := h
  subst hshortfalls hcredits hdiagnostics
  rfl

theorem matches_leaf (node : Prerequisite) {answer answer' : Answer}
    (h : answer.Matches R answer') : (leaf node answer).Matches R (leaf node answer') where
  toAgrees := agrees_leaf node h.outcome
  diagnostics := by
    rw [diagnostics_leaf, diagnostics_leaf]
    exact h.diagnostics

theorem Matches.all (h : r.Matches R r') (node : Prerequisite) :
    (Report.all node r).Matches R (Report.all node r') where
  toAgrees := h.toAgrees.all node
  diagnostics := by
    rw [diagnostics_all, diagnostics_all]
    exact h.diagnostics

theorem Matches.any (h : r.Matches R r') (node : Prerequisite) (count : UInt32) :
    (Report.any node count r).Matches R (Report.any node count r') where
  toAgrees := h.toAgrees.any node count
  diagnostics := by
    rw [diagnostics_any, diagnostics_any]
    exact h.diagnostics

/-- Reports on the same nodes match as a whole if they do one by one. -/
theorem matches_join (joins : Joins R) {report report' : Prerequisite → Report}
    {nodes : List Prerequisite} (h : ∀ node ∈ nodes, (report node).Matches R (report' node)) :
    (join (nodes.map report)).Matches R (join (nodes.map report')) := by
  induction nodes with
  | nil => exact ⟨⟨rfl, rfl⟩, joins.refl []⟩
  | cons node rest ih =>
    obtain ⟨hnode, hrest⟩ := List.forall_mem_cons.mp h
    refine ⟨hnode.toAgrees.join_cons (ih hrest).toAgrees, ?_⟩
    exact joins.append hnode.diagnostics (ih hrest).diagnostics

end Report

end CharacterSheet
