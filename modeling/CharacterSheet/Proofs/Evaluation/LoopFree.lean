import CharacterSheet.Proofs.Compendium.Loops
import CharacterSheet.Proofs.Evaluation.Asking
import CharacterSheet.Proofs.Evaluation.Pass

/-!
# No loop in the content, no loop in a judgement

The search for loops in a compendium follows the names in prerequisites; a judgement follows the items
that it asks for. Both go the same ways: while an item is busy, a way of links leads from it to
everything that is asked for on its behalf (`LeadsTo`). An item that comes up while it is busy would
make that way lead back to its own entry.

Talents that are asked for by their tree are the exception. No link stands for them, so the items must
not name trees.
-/

namespace CharacterSheet

open Relation

variable {subject : Subject} {busy : List OwnedItem} {conditions : List Condition}
  {condition : Condition} {o : OwnedItem}

/-- The prerequisites of the items name talents by their names alone, and no tree that an owned talent
counts for. -/
def Subject.NamesNoTree (subject : Subject) : Prop :=
  ∀ item ∈ subject.items, ∀ talent ∈ subject.items, talent.kind = .talent →
    ∀ tree ∈ talent.trees,
      Condition.asset .talent tree ∉ Prerequisite.conditionsList item.prerequisites

instance (subject : Subject) : Decidable subject.NamesNoTree :=
  inferInstanceAs (Decidable (∀ item ∈ subject.items, ∀ talent ∈ subject.items,
    talent.kind = .talent → ∀ tree ∈ talent.trees,
      Condition.asset .talent tree ∉ Prerequisite.conditionsList item.prerequisites))

/-- What an owned item asks for is linked to it. -/
theorem Condition.Asks.requires (named : subject.NamesNoTree) {item : Item}
    (hitem : item ∈ subject.items)
    (hcondition : condition ∈ Prerequisite.conditionsList item.prerequisites)
    (h : condition.Asks subject o) :
    (Compendium.ofItems subject.items).Requires (.ofItem item) (.ofItem o.item) := by
  have ho := Subject.item_mem_of_mem_owned h.mem_owned
  cases h with
  | byName howned hkind =>
    refine Compendium.requires_ofItems.mpr
      ⟨Compendium.mem_entries_ofItems.mpr ⟨o.item, ho, rfl⟩, item, hitem, rfl, ?_⟩
    rw [Prerequisite.referencesList_eq_filterMap]
    exact List.mem_filterMap.mpr ⟨_, hcondition, by simp [Condition.reference?, hkind, Entry.ofItem]⟩
  | byTree howned htalent htree =>
    have htree := Item.isInTree_iff.mp htree
    exact absurd hcondition (named item hitem o.item ho htalent _ htree)

/-- All busy items are owned, and from each of them a way leads to all that the conditions ask for. -/
def LeadsTo (subject : Subject) (busy : List OwnedItem) (conditions : List Condition) : Prop :=
  ∀ b ∈ busy, b ∈ subject.owned ∧ ∀ condition ∈ conditions, ∀ o, condition.Asks subject o →
    TransGen (Compendium.ofItems subject.items).Requires (.ofItem b.item) (.ofItem o.item)

theorem LeadsTo.mono {fewer : List Condition} (h : LeadsTo subject busy conditions)
    (hfewer : ∀ condition ∈ fewer, condition ∈ conditions) : LeadsTo subject busy fewer :=
  fun b hb => ⟨(h b hb).1, fun condition hc => (h b hb).2 condition (hfewer condition hc)⟩

/-- The ways go on through an item that is asked for, to all that the item asks for. -/
theorem LeadsTo.push (named : subject.NamesNoTree) (h : LeadsTo subject busy conditions)
    (hcondition : condition ∈ conditions) (ho : condition.Asks subject o) :
    LeadsTo subject (busy ++ [o]) (Prerequisite.conditionsList o.item.prerequisites) := by
  have hlink : ∀ next ∈ Prerequisite.conditionsList o.item.prerequisites, ∀ p,
      next.Asks subject p →
        (Compendium.ofItems subject.items).Requires (.ofItem o.item) (.ofItem p.item) :=
    fun next hnext p hp => hp.requires named (Subject.item_mem_of_mem_owned ho.mem_owned) hnext
  intro b hb
  rcases List.mem_append.mp hb with hb | hb
  · refine ⟨(h b hb).1, fun next hnext p hp => ?_⟩
    exact ((h b hb).2 condition hcondition o ho).tail (hlink next hnext p hp)
  · obtain rfl := List.mem_singleton.mp hb
    exact ⟨ho.mem_owned, fun next hnext p hp => TransGen.single (hlink next hnext p hp)⟩

/-- Along ways that never lead back, a judgement closes no loop. -/
theorem Subject.cycle_notMem_judge (named : subject.NamesNoTree)
    (acyclic : ∀ entry, ¬ TransGen (Compendium.ofItems subject.items).Requires entry entry)
    (c : Contributions) (maxDepth room : Nat) (node : Prerequisite)
    (h : LeadsTo subject busy node.conditions) (names : List String) :
    .cycle names ∉ (subject.judge c maxDepth room busy node).diagnostics := by
  induction room generalizing busy node with
  | zero =>
    rw [judge_zero]
    simp
  | succ room ih =>
    have children : ∀ nodes : List Prerequisite,
        LeadsTo subject busy (Prerequisite.conditionsList nodes) →
          .cycle names ∉ (subject.judgeList c maxDepth room busy nodes).diagnostics := by
      intro nodes hnodes hmem
      obtain ⟨child, hchild, hd⟩ := mem_diagnostics_judgeList.mp hmem
      refine ih child (hnodes.mono fun condition hc => ?_) hd
      exact Prerequisite.mem_conditionsList.mpr ⟨child, hchild, hc⟩
    cases node with
    | leaf text condition =>
      rw [diagnostics_judge_leaf]
      intro hmem
      rcases Condition.mem_diagnostics_judge hmem with ⟨o, ho, hd⟩ | ⟨_, hd⟩ | ⟨_, _, hd⟩
      · rcases OwnedItem.mem_diagnostics_recheck hd with ⟨hbusy, -⟩ | ⟨-, -, hd⟩
        · -- the item is busy itself, so the way to it leads back to its own entry
          obtain ⟨b, hb, hplace⟩ := List.any_eq_true.mp hbusy
          obtain ⟨hbowned, hway⟩ := h b hb
          obtain rfl := eq_of_place_eq hbowned ho.mem_owned (beq_iff_eq.mp hplace)
          exact acyclic _ (hway condition (by simp [Prerequisite.conditions]) b ho)
        · obtain ⟨child, hchild, hd⟩ := mem_diagnostics_judgeList.mp hd
          have hpush := h.push named (by simp [Prerequisite.conditions]) ho
          refine ih child (hpush.mono fun next hnext => ?_) hd
          exact Prerequisite.mem_conditionsList.mpr ⟨child, hchild, hnext⟩
      · cases hd
      · cases hd
    | all text nodes =>
      rw [diagnostics_judge_all]
      exact children nodes h
    | any text count nodes =>
      rw [diagnostics_judge_any]
      exact children nodes h

/-- If the check of the items for loops passes, and none of them names a tree of an owned talent,
then no judgement on the actor reports a loop. -/
theorem Actor.no_cycle_reported_of_checkLoops (actor : Actor)
    (pass : (Compendium.ofItems actor.items).checkLoops = .ok ())
    (named : actor.subject.NamesNoTree) (settings : Settings) (nodes : List Prerequisite)
    (names : List String) :
    .cycle names ∉ (actor.subject.report settings nodes).diagnostics := by
  intro hmem
  rw [Subject.report_eq_judgeList] at hmem
  obtain ⟨node, -, hd⟩ := Subject.mem_diagnostics_judgeList.mp hmem
  have acyclic := Compendium.not_transGen_of_checkLoops pass
  exact Subject.cycle_notMem_judge named acyclic _ _ _ node (by simp [LeadsTo]) names hd

/-- A character that has one feat twice, with different prerequisites. -/
def trainedTwice : Actor where
  items := [
    { name := "Training", kind := .feat, prerequisites := [.leaf "Gift" (.asset .feat "Gift")] },
    { name := "Training", kind := .feat, prerequisites := [.all "both"
      [.leaf "Gift" (.asset .feat "Gift"), .leaf "Patience" (.asset .trait "Patience")]] },
    { name := "Gift", kind := .feat },
    { name := "Patience", kind := .trait, prerequisites := [.leaf "Gift" (.asset .feat "Gift")] }]

theorem no_cycle_reported_trainedTwice :
    (Compendium.ofItems trainedTwice.items).checkLoops = .ok () ∧
      trainedTwice.subject.NamesNoTree ∧
      .cycle ["Training", "Training"] ∉
        (trainedTwice.subject.report {} [.leaf "again" (.asset .feat "Training")]).diagnostics := by
  have pass : (Compendium.ofItems trainedTwice.items).checkLoops = .ok () := rfl
  have named : trainedTwice.subject.NamesNoTree := by decide
  exact ⟨pass, named, trainedTwice.no_cycle_reported_of_checkLoops pass named {} _ _⟩

end CharacterSheet
