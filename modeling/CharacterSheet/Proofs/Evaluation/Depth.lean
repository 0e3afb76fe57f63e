import CharacterSheet.Proofs.Evaluation.Asking
import CharacterSheet.Proofs.Evaluation.Pass
import Mathlib.Algebra.BigOperators.Group.List.Basic
import Mathlib.Algebra.Ring.Nat

/-!
# How deep a judgement goes

A judgement goes one level down for each combination and for each owned item whose prerequisites are
judged. An item is never judged while it is busy, so on the way to any node each item makes its levels
once at most: one for itself, and one for each combination above one another in its prerequisites
(`Item.levels`). With room for the levels of the nodes and of all items no node is too deep, whatever
loops the items make (`Subject.tooDeep_notMem_judge`).

And a report in which no node is too deep stays the same with more room
(`Subject.judge_eq_of_room_le`).
-/

namespace CharacterSheet

/-- The levels that an item makes when its prerequisites are judged. -/
def Item.levels (item : Item) : Nat :=
  if item.prerequisites.isEmpty then 0 else 1 + Prerequisite.heightList item.prerequisites

/-- The levels that the items of a subject make together. -/
def Subject.levels (subject : Subject) : Nat :=
  (subject.items.map Item.levels).sum

theorem Item.levels_of_asks {item : Item} (h : item.prerequisites.isEmpty = false) :
    item.levels = 1 + Prerequisite.heightList item.prerequisites := by
  rw [levels, h]
  rfl

namespace Subject

variable {subject : Subject} {c : Contributions} {maxDepth maxDepth' room room' : Nat}
  {busy : List OwnedItem}

/-! ## Enough room -/

/-- All owned items that are not busy are among those of the list. -/
def IdleAmong (subject : Subject) (busy idle : List OwnedItem) : Prop :=
  ∀ o ∈ subject.owned, busy.any (·.place == o.place) = false → o ∈ idle

/-- Once an item is busy, the list goes without it. -/
theorem IdleAmong.push {idle : List OwnedItem} (h : subject.IdleAmong busy idle) (o : OwnedItem) :
    subject.IdleAmong (busy ++ [o]) (idle.erase o) := by
  intro p hp hidle
  rw [List.any_append, Bool.or_eq_false_iff] at hidle
  have hne : p ≠ o := by
    rintro rfl
    simp at hidle
  exact (List.mem_erase_of_ne hne).mpr (h p hp hidle.1)

/-- With room for the node and for all items that are not busy no node is too deep. -/
theorem tooDeep_notMem_judge {idle : List OwnedItem} (hidle : subject.IdleAmong busy idle)
    {node : Prerequisite} (hroom : node.height + (idle.map (·.item.levels)).sum < room)
    (depth : Nat) (text : String) :
    .tooDeep depth text ∉ (subject.judge c maxDepth room busy node).diagnostics := by
  induction room generalizing busy idle node with
  | zero => cases hroom
  | succ room ih =>
    have nested : ∀ {busy idle : List OwnedItem} {nodes : List Prerequisite},
        subject.IdleAmong busy idle →
        Prerequisite.heightList nodes + (idle.map (·.item.levels)).sum < room →
        .tooDeep depth text ∉ (subject.judgeList c maxDepth room busy nodes).diagnostics := by
      intro busy idle nodes hidle hroom hmem
      obtain ⟨child, hchild, hd⟩ := mem_diagnostics_judgeList.mp hmem
      have hheight := Prerequisite.height_le_heightList hchild
      exact ih hidle (by omega) hd
    cases node with
    | leaf text condition =>
      rw [diagnostics_judge_leaf]
      intro hmem
      rcases Condition.mem_diagnostics_judge hmem with ⟨o, ho, hd⟩ | ⟨_, hd⟩ | ⟨_, _, hd⟩
      · rcases OwnedItem.mem_diagnostics_recheck hd with ⟨-, hd⟩ | ⟨hbusy, hasks, hd⟩
        · cases hd
        · -- the item makes its levels here, and none further down
          have hlevels : o.item.levels + ((idle.erase o).map (·.item.levels)).sum =
              (idle.map (·.item.levels)).sum :=
            List.sum_map_erase (fun o : OwnedItem => o.item.levels) (hidle o ho.mem_owned hbusy)
          have hitem := Item.levels_of_asks hasks
          exact nested (hidle.push o) (by omega) hd
      · cases hd
      · cases hd
    | all text nodes =>
      rw [diagnostics_judge_all]
      rw [Prerequisite.height] at hroom
      exact nested hidle (by omega)
    | any text count nodes =>
      rw [diagnostics_judge_any]
      rw [Prerequisite.height] at hroom
      exact nested hidle (by omega)

/-! ## More room -/

/-- Nothing among the diagnostics says that a node is too deep. -/
def NoneTooDeep (diagnostics : List Diagnostic) : Prop :=
  ∀ d ∈ diagnostics, ∀ depth text, d ≠ .tooDeep depth text

theorem recheck_congr {judgeNodes judgeNodes' : List OwnedItem → List Prerequisite → Report}
    {o : OwnedItem}
    (h : NoneTooDeep (judgeNodes (busy ++ [o]) o.item.prerequisites).diagnostics →
      judgeNodes' (busy ++ [o]) o.item.prerequisites =
        judgeNodes (busy ++ [o]) o.item.prerequisites)
    (clean : NoneTooDeep (o.recheck judgeNodes busy).diagnostics) :
    o.recheck judgeNodes' busy = o.recheck judgeNodes busy := by
  rcases o.recheck_eq busy with heq | ⟨-, heq⟩ | ⟨-, -, heq⟩
  · rw [heq, heq]
  · rw [heq, heq]
  · rw [heq] at clean
    rw [heq, heq, h clean]

theorem judgeList_congr {nodes : List Prerequisite}
    (h : ∀ node ∈ nodes, NoneTooDeep (subject.judge c maxDepth room busy node).diagnostics →
      subject.judge c maxDepth' room' busy node = subject.judge c maxDepth room busy node)
    (clean : NoneTooDeep (subject.judgeList c maxDepth room busy nodes).diagnostics) :
    subject.judgeList c maxDepth' room' busy nodes =
      subject.judgeList c maxDepth room busy nodes := by
  refine congrArg Report.join (List.map_congr_left fun node hnode => h node hnode fun d hd => ?_)
  exact clean d (mem_diagnostics_judgeList.mpr ⟨node, hnode, hd⟩)

/-- A report in which no node is too deep says the same with more room. -/
theorem judge_eq_of_room_le (hroom : room ≤ room') {node : Prerequisite}
    (clean : NoneTooDeep (subject.judge c maxDepth room busy node).diagnostics) :
    subject.judge c maxDepth' room' busy node = subject.judge c maxDepth room busy node := by
  induction room generalizing room' busy node with
  | zero =>
    rw [judge_zero] at clean
    exact absurd rfl (clean _ List.mem_cons_self maxDepth node.text)
  | succ room ih =>
    obtain ⟨room', rfl⟩ : ∃ more, room' = more + 1 := ⟨room' - 1, by omega⟩
    have nested : ∀ busy nodes,
        NoneTooDeep (subject.judgeList c maxDepth room busy nodes).diagnostics →
        subject.judgeList c maxDepth' room' busy nodes =
          subject.judgeList c maxDepth room busy nodes :=
      fun busy nodes => judgeList_congr fun child _ => ih (Nat.le_of_succ_le_succ hroom)
    cases node with
    | leaf text condition =>
      rw [diagnostics_judge_leaf] at clean
      simp only [judge_leaf]
      refine congrArg _ (Condition.judge_congr (fun o _ hclean => ?_) clean)
      exact recheck_congr (nested _ _) hclean
    | all text nodes =>
      rw [diagnostics_judge_all] at clean
      simp only [judge_all, nested busy nodes clean]
    | any text count nodes =>
      rw [diagnostics_judge_any] at clean
      simp only [judge_any, nested busy nodes clean]

theorem judgeList_eq_of_room_le (hroom : room ≤ room') {nodes : List Prerequisite}
    (clean : NoneTooDeep (subject.judgeList c maxDepth room busy nodes).diagnostics) :
    subject.judgeList c maxDepth' room' busy nodes =
      subject.judgeList c maxDepth room busy nodes :=
  judgeList_congr (fun _ _ => judge_eq_of_room_le hroom) clean

/-! ## Reports -/

/-- With room for the nodes and for all items none is too deep. -/
theorem noneTooDeep_judgeList {nodes : List Prerequisite}
    (hroom : Prerequisite.heightList nodes + subject.levels < room) :
    NoneTooDeep (subject.judgeList c maxDepth room [] nodes).diagnostics := by
  rintro d hd depth text rfl
  obtain ⟨node, hnode, hd⟩ := mem_diagnostics_judgeList.mp hd
  have hidle : subject.IdleAmong [] subject.owned := fun o ho _ => ho
  have hlevels : (subject.owned.map (·.item.levels)).sum = subject.levels := by
    rw [levels, ← subject.map_item_owned, List.map_map]
    rfl
  have hheight := Prerequisite.height_le_heightList hnode
  exact tooDeep_notMem_judge hidle (by omega) depth text hd

/-- No node is too deep if the deepest level is that of the nodes and of all items together. A report in
which no node is too deep is the same with any deeper level. So a judgement never goes further down
than the nodes and all items do together, whether or not it is held back. -/
theorem report_eq_of_deep_enough (subject : Subject) (nodes : List Prerequisite) :
    (∀ settings : Settings,
      Prerequisite.heightList nodes + subject.levels ≤ settings.maxDepth.toNat →
        ∀ depth text, .tooDeep depth text ∉ (subject.report settings nodes).diagnostics) ∧
    (∀ settings settings' : Settings, settings.maxDepth ≤ settings'.maxDepth →
      (∀ depth text, .tooDeep depth text ∉ (subject.report settings nodes).diagnostics) →
        subject.report settings' nodes = subject.report settings nodes) ∧
    ∀ maxDepth room : Nat, Prerequisite.heightList nodes + subject.levels < room →
      subject.judgeList subject.contributions maxDepth room [] nodes =
        subject.judgeList subject.contributions 0
          (Prerequisite.heightList nodes + subject.levels + 1) [] nodes := by
  refine ⟨fun settings hdeep depth text hmem => ?_, fun settings settings' hle clean => ?_,
    fun maxDepth room hroom => ?_⟩
  · rw [report_eq_judgeList] at hmem
    exact noneTooDeep_judgeList (Nat.lt_succ_of_le hdeep) _ hmem depth text rfl
  · rw [report_eq_judgeList] at clean
    rw [report_eq_judgeList, report_eq_judgeList]
    refine judgeList_eq_of_room_le (Nat.succ_le_succ (UInt64.le_iff_toNat_le.mp hle)) ?_
    rintro d hd depth text rfl
    exact clean depth text hd
  · exact judgeList_eq_of_room_le hroom (noneTooDeep_judgeList (Nat.lt_succ_self _))

/-- Two feats that require each other, one of them through a combination. -/
def interlocked : Subject where
  attributes := []
  items := [
    { name := "Feint", kind := .feat, prerequisites := [.all "all"
      [.leaf "Riposte" (.asset .feat "Riposte")]] },
    { name := "Riposte", kind := .feat, prerequisites := [.leaf "Feint" (.asset .feat "Feint")] }]

theorem report_interlocked_eq_of_deep_enough :
    interlocked.levels ≤ 3 ∧
      (∀ depth text, .tooDeep depth text ∉
        (interlocked.report ⟨3⟩ [.leaf "Feint" (.asset .feat "Feint")]).diagnostics) ∧
      interlocked.report ⟨64⟩ [.leaf "Feint" (.asset .feat "Feint")] =
        interlocked.report ⟨3⟩ [.leaf "Feint" (.asset .feat "Feint")] ∧
      -- one level less is one too few
      (interlocked.report ⟨2⟩ [.leaf "Feint" (.asset .feat "Feint")]).diagnostics =
        [.tooDeep 2 "Feint"] := by
  obtain ⟨deep, same, -⟩ :=
    interlocked.report_eq_of_deep_enough [.leaf "Feint" (.asset .feat "Feint")]
  have clean := deep ⟨3⟩ (by decide)
  exact ⟨by decide, clean, same ⟨3⟩ ⟨64⟩ (by decide) clean, by decide +kernel⟩

end Subject

end CharacterSheet
