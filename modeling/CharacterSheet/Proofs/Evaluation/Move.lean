import CharacterSheet.Proofs.Evaluation.Agreement
import CharacterSheet.Proofs.Evaluation.Pass

/-!
# Judging items that stand at other places

An owned item is known by its place, so a judgement can tell two items apart that have the same
contents, and break a loop at the one that is busy. Where the items stand says nothing else. If each of
them is moved to a place of its own, the verdicts move with them, and a report only changes where a
condition sees the items in another way than before (`Condition.Follows`).

The two judgements run in lockstep: what is busy in the one is busy in the other, only elsewhere.
-/

namespace CharacterSheet

variable {subject subject' : Subject} {R : List Diagnostic → List Diagnostic → Prop}
  {busy : List OwnedItem} {o : OwnedItem}

/-! ## Moves -/

/-- A way to take the owned items of a subject to owned items of another one. They keep their
contents, and no two of them come to the same place. -/
structure Move (subject subject' : Subject) where
  /-- what an item is at its new place -/
  target : OwnedItem → OwnedItem
  owned_target : ∀ {o}, o ∈ subject.owned → target o ∈ subject'.owned
  item_target : ∀ {o}, o ∈ subject.owned → (target o).item = o.item
  eq_of_target : ∀ {o p}, o ∈ subject.owned → p ∈ subject.owned → target o = target p → o = p

namespace Move

variable (move : Move subject subject')

/-- Two items come to the same place only if they are at the same place. -/
theorem place_target_eq_iff {p : OwnedItem} (ho : o ∈ subject.owned) (hp : p ∈ subject.owned) :
    (move.target o).place = (move.target p).place ↔ o.place = p.place := by
  constructor
  · intro h
    have heq := Subject.eq_of_place_eq (move.owned_target ho) (move.owned_target hp) h
    rw [move.eq_of_target ho hp heq]
  · intro h
    rw [Subject.eq_of_place_eq ho hp h]

theorem any_place_map (hbusy : busy ⊆ subject.owned) (ho : o ∈ subject.owned) :
    (busy.map move.target).any (·.place == (move.target o).place) =
      busy.any (·.place == o.place) := by
  rw [List.any_map, Bool.eq_iff_iff, List.any_eq_true, List.any_eq_true]
  refine exists_congr fun p => and_congr_right fun hp => ?_
  rw [Function.comp_apply, beq_iff_eq, beq_iff_eq]
  exact move.place_target_eq_iff (hbusy hp) ho

theorem map_name_map (hbusy : busy ⊆ subject.owned) :
    (busy.map move.target).map (·.item.name) = busy.map (·.item.name) := by
  rw [List.map_map]
  refine List.map_congr_left fun p hp => ?_
  rw [Function.comp_apply, move.item_target (hbusy hp)]

/-- The verdict on an item moves with it, if the report on what it asks for stays. -/
theorem matches_recheck (joins : Joins R) (hbusy : busy ++ [o] ⊆ subject.owned)
    {judgeNodes judgeNodes' : List OwnedItem → List Prerequisite → Report}
    (h : (judgeNodes' ((busy ++ [o]).map move.target) o.item.prerequisites).Matches R
      (judgeNodes (busy ++ [o]) o.item.prerequisites)) :
    ((move.target o).recheck judgeNodes' (busy.map move.target)).Matches R
      (o.recheck judgeNodes busy) := by
  obtain ⟨hbefore, hlast⟩ := List.append_subset.mp hbusy
  have ho : o ∈ subject.owned := hlast List.mem_cons_self
  have hpush : busy.map move.target ++ [move.target o] = (busy ++ [o]).map move.target := by
    rw [List.map_append, List.map_singleton]
  rw [OwnedItem.recheck, OwnedItem.recheck, move.item_target ho, move.any_place_map hbefore ho, hpush,
    move.map_name_map hbusy]
  split
  · exact ⟨rfl, joins.refl _⟩
  · split
    · exact ⟨rfl, joins.refl _⟩
    · exact ⟨h.passes, h.diagnostics⟩

end Move

/-! ## Judgements that follow -/

/-- A condition follows a move if it is judged as before by asking the items at their new places. -/
def Condition.Follows (R : List Diagnostic → List Diagnostic → Prop) (move : Move subject subject')
    (condition : Condition) : Prop :=
  ∀ (recheck : Recheck) (text : String),
    (condition.judge subject' subject'.contributions recheck text).Matches R
      (condition.judge subject subject.contributions (fun o => recheck (move.target o)) text)

namespace Move

section run

variable (move : Move subject subject') (joins : Joins R)
  (trans : ∀ {ds es fs}, R ds es → R es fs → R ds fs)
  (hitems : ∀ item ∈ subject.items,
    ∀ condition ∈ Prerequisite.conditionsList item.prerequisites, condition.Follows R move)
include joins trans hitems

/-- Where all conditions follow a move, so does the judgement. -/
theorem matches_judge (maxDepth room : Nat) (hbusy : busy ⊆ subject.owned) {node : Prerequisite}
    (hnode : ∀ condition ∈ node.conditions, condition.Follows R move) :
    (subject'.judge subject'.contributions maxDepth room (busy.map move.target) node).Matches R
      (subject.judge subject.contributions maxDepth room busy node) := by
  induction room generalizing busy node with
  | zero =>
    simp only [Subject.judge_zero]
    exact ⟨⟨rfl, rfl⟩, joins.refl _⟩
  | succ room ih =>
    have nested : ∀ {busy : List OwnedItem} {nodes : List Prerequisite}, busy ⊆ subject.owned →
        (∀ condition ∈ Prerequisite.conditionsList nodes, condition.Follows R move) →
        (subject'.judgeList subject'.contributions maxDepth room (busy.map move.target)
          nodes).Matches R (subject.judgeList subject.contributions maxDepth room busy nodes) := by
      intro busy nodes hbusy hnodes
      refine Report.matches_join joins fun child hchild => ih hbusy fun condition hcondition => ?_
      exact hnodes condition (Prerequisite.mem_conditionsList.mpr ⟨child, hchild, hcondition⟩)
    cases node with
    | leaf text condition =>
      simp only [Subject.judge_leaf]
      have hfollows : condition.Follows R move :=
        hnode condition (by simp [Prerequisite.conditions])
      refine Report.matches_leaf _ ((hfollows _ text).trans trans ?_)
      refine Condition.matches_judge (P := fun _ => True) joins (fun o ho _ => ?_) (by simp)
      -- the item is busy from here on, at its own place in each of the two
      have hpush : busy ++ [o] ⊆ subject.owned :=
        List.append_subset.mpr ⟨hbusy, List.cons_subset.mpr ⟨ho.mem_owned, List.nil_subset _⟩⟩
      refine move.matches_recheck joins hpush (nested hpush ?_)
      exact hitems o.item (Subject.item_mem_of_mem_owned ho.mem_owned)
    | all text children =>
      simp only [Subject.judge_all]
      exact (nested hbusy hnode).all _
    | any text count children =>
      simp only [Subject.judge_any]
      exact (nested hbusy hnode).any _ count

theorem matches_report (settings : Settings) {nodes : List Prerequisite}
    (hnodes : ∀ condition ∈ Prerequisite.conditionsList nodes, condition.Follows R move) :
    (subject'.report settings nodes).Matches R (subject.report settings nodes) := by
  rw [Subject.report_eq_judgeList, Subject.report_eq_judgeList]
  refine Report.matches_join joins fun node hnode => ?_
  refine move.matches_judge joins trans hitems _ _ (List.nil_subset _) fun condition hcondition => ?_
  exact hnodes condition (Prerequisite.mem_conditionsList.mpr ⟨node, hnode, hcondition⟩)

end run

end Move

/-! ## Items of one kind and name -/

theorem Subject.mem_namesakes {kind : ItemKind} {name : String} :
    o ∈ subject.namesakes kind name ↔
      o ∈ subject.owned ∧ o.item.kind = kind ∧ o.item.name = name := by
  simp [namesakes]

theorem Subject.recheckFirst_eq_head? (subject : Subject) (recheck : Recheck) (kind : ItemKind)
    (name : String) : subject.recheckFirst recheck kind name =
      ((subject.namesakes kind name).head?.map recheck).getD ⟨false, []⟩ := by
  rw [recheckFirst, namesakes, List.head?_filter]
  split
  · next h => rw [h]; rfl
  · next h => rw [h]; rfl

theorem Subject.recheckAny_map (recheck : Recheck) (f : OwnedItem → OwnedItem)
    (os : List OwnedItem) :
    recheckAny recheck (os.map f) = recheckAny (fun o => recheck (f o)) os := by
  induction os with
  | nil => rfl
  | cons o rest ih => rw [List.map_cons, recheckAny, recheckAny, ih]

section named

variable (move : Move subject subject') (recheck : Recheck) {kind : ItemKind} {name : String}

/-- Where the items of a kind and name keep their order, the first of them stays the first. -/
theorem Move.recheckFirst_eq
    (h : subject'.namesakes kind name = (subject.namesakes kind name).map move.target) :
    subject'.recheckFirst recheck kind name =
      subject.recheckFirst (fun o => recheck (move.target o)) kind name := by
  rw [Subject.recheckFirst_eq_head?, Subject.recheckFirst_eq_head?, h, List.head?_map,
    Option.map_map]
  rfl

/-- And the traits of a name are asked in the same turn. -/
theorem Move.recheckTrait_eq
    (h : subject'.namesakes .trait name = (subject.namesakes .trait name).map move.target) :
    subject'.recheckTrait recheck name =
      subject.recheckTrait (fun o => recheck (move.target o)) name := by
  rw [Subject.recheckTrait, h, Subject.recheckAny_map]
  rfl

end named

/-! ## Other items that look the same -/

/-- The subject with other items. -/
def Subject.withItems (subject : Subject) (items : List Item) : Subject :=
  { subject with items }

/-- The items look the same from their new places, to conditions that do not ask for gear: what they
contribute, what is counted or looked for among them, and who goes by a name. Talents may report their
problems in another order, as far as `R` goes. -/
structure Move.KeepsView {items : List Item} (R : List Diagnostic → List Diagnostic → Prop)
    (move : Move subject (subject.withItems items)) : Prop where
  sum_eq : ∀ key, (subject.withItems items).contributions.sum key = subject.contributions.sum key
  any_eq : ∀ key, (subject.withItems items).contributions.any key = subject.contributions.any key
  any_species : ∀ p : Item → Bool,
    ((subject.withItems items).itemsOf .species).any p = (subject.itemsOf .species).any p
  any_equipped : ∀ p : Item → Bool,
    (subject.withItems items).equipped.any p = subject.equipped.any p
  length_techniques : ((subject.withItems items).itemsOf .forceTechnique).length =
    (subject.itemsOf .forceTechnique).length
  namesakes_eq : ∀ {kind : ItemKind}, kind.isCarried = false → ∀ name,
    (subject.withItems items).namesakes kind name = (subject.namesakes kind name).map move.target
  judgeTalent : ∀ (recheck : Recheck) (text name : String),
    ((subject.withItems items).judgeTalent recheck text name).Matches R
      (subject.judgeTalent (fun o => recheck (move.target o)) text name)

namespace Move.KeepsView

variable {items : List Item} {move : Move subject (subject.withItems items)}
  (h : move.KeepsView R)
include h

theorem value_threshold_eq (least : Threshold) :
    least.value (subject.withItems items) (subject.withItems items).contributions =
      least.value subject subject.contributions := by
  cases least with
  | attributeSum key => exact h.sum_eq key
  | _ => rfl

/-- An asset is judged as before, unless it is gear, of which more may be there, or a talent. -/
theorem judge_asset_eq (recheck : Recheck) (text name : String) {kind : Asset}
    (hitem : kind ≠ .item) (htalent : kind ≠ .talent) :
    kind.judge (subject.withItems items) recheck text name =
      kind.judge subject (fun o => recheck (move.target o)) text name := by
  cases kind with
  | item => exact absurd rfl hitem
  | talent => exact absurd rfl htalent
  | trainedSkill | proficiency | gender => rfl
  | species => simp only [Asset.judge, h.any_species]
  | equipped => simp only [Asset.judge, h.any_equipped]
  | feat | heroicClass | tradition | technique =>
    simp only [Asset.judge]
    rw [move.recheckFirst_eq recheck (h.namesakes_eq rfl name)]
  | trait =>
    simp only [Asset.judge]
    rw [move.recheckTrait_eq recheck (h.namesakes_eq rfl name)]

/-- A condition follows the move if the gear that it asks for, should it be one that asks for gear, is
there as before. -/
theorem follows (refl : ∀ ds, R ds ds) {condition : Condition}
    (hgear : ∀ name, condition = .asset .item name →
      (subject.withItems items).inventory.any (·.name == name) =
        subject.inventory.any (·.name == name)) : condition.Follows R move := by
  intro recheck text
  have same : ∀ {answer answer' : Answer}, answer = answer' → answer.Matches R answer' := by
    rintro _ _ rfl
    exact ⟨rfl, refl _⟩
  cases condition with
  | age | characterLevel | baseAttackBonus | unsupported => exact same rfl
  | asset kind name =>
    by_cases hitem : kind = .item
    · subst hitem
      apply same
      simp only [Condition.judge, Asset.judge, hgear name rfl]
    by_cases htalent : kind = .talent
    · subst htalent
      exact h.judgeTalent recheck text name
    · exact same (h.judge_asset_eq recheck text name hitem htalent)
  | darkSideScore least =>
    apply same
    simp only [Condition.judge, h.value_threshold_eq]
    rfl
  | techniqueCount least =>
    apply same
    simp only [Condition.judge, h.length_techniques]
  | attributeSum key least =>
    apply same
    simp only [Condition.judge, h.sum_eq]
  | special rule =>
    apply same
    cases rule with
    | notDroid | droid => simp only [Condition.judge, Special.judge, h.any_eq]
    | builtLightsaber | other => rfl

end Move.KeepsView

end CharacterSheet
