import CharacterSheet.Proofs.Evaluation.Agreement
import CharacterSheet.Proofs.Evaluation.Supposition

/-!
# A judgement makes the least supposition that holds

A judgement breaks loops on the way: an item that comes up while it is busy does not stand there,
although it may stand elsewhere. What comes out does not depend on the way. It is the report under the
least supposition that is its own reconsideration, so items that only support each other never stand,
and an item that is supported from outside of a loop does, wherever the judgement enters the loop.

The proof compares a judgement with the busy items `busy` to the least supposition under which none of
them stands (`leastBut busy`). To judge one more item is to make it busy: what it asks for is met under
`leastBut (busy ++ [o])` exactly if the item belongs to `leastBut busy`
(`leastBut_eq_passes`).
There is such a supposition wherever reconsidering is monotone.
-/

namespace CharacterSheet

namespace Subject

variable {subject : Subject} {busy : List OwnedItem} {o : OwnedItem}

/-! ## The least supposition under which no busy item stands -/

/-- The owned items that meet what they ask for under a supposition and are not busy. -/
def reconsiderBut (subject : Subject) (busy : List OwnedItem) (supposed : Supposition) :
    Supposition :=
  fun o => !busy.any (·.place == o.place) && subject.reconsider supposed o

theorem mem_owned_of_reconsiderBut {supposed : Supposition}
    (h : subject.reconsiderBut busy supposed o = true) : o ∈ subject.owned := by
  rw [reconsiderBut, reconsider, Bool.and_eq_true, Bool.and_eq_true] at h
  exact of_decide_eq_true h.2.1

theorem monotone_reconsiderBut (mono : Monotone subject.reconsider) (busy : List OwnedItem) :
    Monotone (subject.reconsiderBut busy) := by
  intro supposed supposed' h o ho
  rw [reconsiderBut, Bool.and_eq_true] at ho ⊢
  exact ho.imp_right (mono h o)

/-- The least supposition that is its own reconsideration while some items are busy. -/
noncomputable def leastBut (mono : Monotone subject.reconsider) (busy : List OwnedItem) :
    Supposition :=
  OrderHom.lfp ⟨subject.reconsiderBut busy, monotone_reconsiderBut mono busy⟩

theorem reconsiderBut_leastBut (mono : Monotone subject.reconsider) (busy : List OwnedItem) :
    subject.reconsiderBut busy (leastBut mono busy) = leastBut mono busy :=
  OrderHom.map_lfp ⟨subject.reconsiderBut busy, monotone_reconsiderBut mono busy⟩

theorem leastBut_le (mono : Monotone subject.reconsider) {supposed : Supposition}
    (h : subject.reconsiderBut busy supposed ≤ supposed) : leastBut mono busy ≤ supposed :=
  OrderHom.lfp_le ⟨subject.reconsiderBut busy, monotone_reconsiderBut mono busy⟩ h

theorem leastBut_of_busy (mono : Monotone subject.reconsider)
    (h : busy.any (·.place == o.place) = true) : leastBut mono busy o = false := by
  rw [← reconsiderBut_leastBut mono busy, reconsiderBut, h]
  rfl

/-- With one more busy item no more items stand. -/
theorem leastBut_append_le (mono : Monotone subject.reconsider) (busy : List OwnedItem)
    (o : OwnedItem) : leastBut mono (busy ++ [o]) ≤ leastBut mono busy := by
  refine leastBut_le mono fun p hp => ?_
  rw [reconsiderBut, List.any_append, Bool.not_or, Bool.and_assoc, Bool.and_eq_true] at hp
  rw [← reconsiderBut_leastBut mono busy, reconsiderBut, Bool.and_eq_true]
  exact ⟨hp.1, (Bool.and_eq_true _ _ ▸ hp.2).2⟩

/-- An item that is not busy stands exactly if it meets what it asks for while it is busy itself. If
it does not, nothing needs it: what stands without it is a supposition that holds. -/
theorem leastBut_eq_passes (mono : Monotone subject.reconsider) (ho : o ∈ subject.owned)
    (hbusy : busy.any (·.place == o.place) = false) (hasks : o.item.prerequisites.isEmpty = false) :
    leastBut mono busy o =
      (subject.supposing (leastBut mono (busy ++ [o])) o.item.prerequisites).passes := by
  have hreconsider : ∀ supposed, subject.reconsiderBut busy supposed o =
      (subject.supposing supposed o.item.prerequisites).passes := by
    intro supposed
    simp [reconsiderBut, reconsider, hbusy, ho, hasks]
  cases hpasses : (subject.supposing (leastBut mono (busy ++ [o])) o.item.prerequisites).passes with
  | true =>
    rw [← reconsiderBut_leastBut mono busy, hreconsider]
    have hle := monotone_reconsiderBut mono busy (leastBut_append_le mono busy o) o
    rw [hreconsider, hreconsider] at hle
    exact hle hpasses
  | false =>
    -- without the item its prerequisites are not met, so what stands without it is enough
    have holds : subject.reconsiderBut busy (leastBut mono (busy ++ [o])) ≤
        leastBut mono (busy ++ [o]) := by
      intro p hp
      by_cases hplace : p.place = o.place
      · obtain rfl := eq_of_place_eq (mem_owned_of_reconsiderBut hp) ho hplace
        rw [hreconsider, hpasses] at hp
        cases hp
      · rw [← reconsiderBut_leastBut mono (busy ++ [o]), reconsiderBut, List.any_append]
        rw [reconsiderBut] at hp
        simpa [Ne.symm hplace] using hp
    have hle := leastBut_le mono holds o
    have hnot : leastBut mono (busy ++ [o]) o = false := leastBut_of_busy mono (by simp)
    exact Bool.eq_false_iff.mpr fun h => Bool.eq_false_iff.mp hnot (hle h)

/-! ## A judgement with busy items -/

variable {maxDepth room : Nat}

theorem agrees_judgeList {c : Contributions} {recheck : Recheck} {nodes : List Prerequisite}
    (h : ∀ node ∈ nodes, (subject.judge c maxDepth room busy node).Agrees
      (subject.judgeWith c recheck node)) :
    (subject.judgeList c maxDepth room busy nodes).Agrees
      (Report.join (subject.judgeEachWith c recheck nodes)) := by
  induction nodes with
  | nil => exact ⟨rfl, rfl⟩
  | cons node rest ih =>
    obtain ⟨hnode, hrest⟩ := List.forall_mem_cons.mp h
    exact hnode.join_cons (ih hrest)

/-- The verdict on an owned item is the supposition on it, if the report on what it asks for agrees
with the supposition that is made while the item is busy. -/
theorem stands_recheck_eq (mono : Monotone subject.reconsider) (ho : o ∈ subject.owned)
    {judgeNodes : List OwnedItem → List Prerequisite → Report}
    (h : busy.any (·.place == o.place) = false → o.item.prerequisites.isEmpty = false →
      (judgeNodes (busy ++ [o]) o.item.prerequisites).Agrees
        (subject.supposing (leastBut mono (busy ++ [o])) o.item.prerequisites)) :
    (o.recheck judgeNodes busy).stands = (Recheck.suppose (leastBut mono busy) o).stands := by
  rw [OwnedItem.recheck, Recheck.suppose]
  cases hasks : o.item.prerequisites.isEmpty with
  | true => rfl
  | false =>
    cases hbusy : busy.any (·.place == o.place) with
    | true =>
      rw [leastBut_of_busy mono hbusy]
      rfl
    | false =>
      rw [leastBut_eq_passes mono ho hbusy hasks]
      exact (h hbusy hasks).passes

/-- As long as no node is too deep, a judgement says what the least supposition says under which no
busy item stands. -/
theorem agrees_judge (mono : Monotone subject.reconsider) (maxDepth room : Nat)
    (busy : List OwnedItem) (node : Prerequisite)
    (clean : ∀ d ∈ (subject.judge subject.contributions maxDepth room busy node).diagnostics,
      ∀ depth text, d ≠ .tooDeep depth text) :
    (subject.judge subject.contributions maxDepth room busy node).Agrees
      (subject.judgeWith subject.contributions (.suppose (leastBut mono busy)) node) := by
  induction room generalizing busy node with
  | zero =>
    rw [judge_zero] at clean
    exact absurd rfl (clean _ List.mem_cons_self maxDepth node.text)
  | succ room ih =>
    have nested : ∀ busy nodes,
        (∀ d ∈ (subject.judgeList subject.contributions maxDepth room busy nodes).diagnostics,
          ∀ depth text, d ≠ .tooDeep depth text) →
        (subject.judgeList subject.contributions maxDepth room busy nodes).Agrees
          (subject.supposing (leastBut mono busy) nodes) := by
      intro busy nodes clean
      refine agrees_judgeList fun child hchild => ih busy child fun d hd => ?_
      exact clean d (mem_diagnostics_judgeList.mpr ⟨child, hchild, hd⟩)
    cases node with
    | leaf text condition =>
      rw [diagnostics_judge_leaf] at clean
      rw [judge_leaf]
      refine Report.agrees_leaf _ (Condition.outcome_judge_congr (fun o ho hclean => ?_) clean).symm
      -- the item is judged with less room and with itself busy, where the same holds
      refine (stands_recheck_eq mono ho.mem_owned fun hbusy hasks => ?_).symm
      refine nested (busy ++ [o]) o.item.prerequisites fun d hd => hclean d ?_
      rw [OwnedItem.recheck, hasks, hbusy]
      exact hd
    | all text children =>
      rw [diagnostics_judge_all] at clean
      rw [judge_all]
      exact (nested busy children clean).all _
    | any text count children =>
      rw [diagnostics_judge_any] at clean
      rw [judge_any]
      exact (nested busy children clean).any _ count

/-! ## The outermost judgement -/

theorem reconsiderBut_nil (supposed : Supposition) :
    subject.reconsiderBut [] supposed = subject.reconsider supposed :=
  rfl

/-- Two feats that require each other, and one that requires itself or the first trait. -/
def entangled : Subject where
  attributes := []
  items := [
    { name := "Riposte", kind := .feat, prerequisites := [.leaf "Feint" (.asset .feat "Feint")] },
    { name := "Feint", kind := .feat, prerequisites := [.leaf "Riposte" (.asset .feat "Riposte")] },
    { name := "Focus", kind := .feat, prerequisites := [.any "either" 1
      [.leaf "Focus" (.asset .feat "Focus"), .leaf "Calm" (.asset .trait "Calm")]] },
    { name := "Calm", kind := .trait }]

end Subject

end CharacterSheet
