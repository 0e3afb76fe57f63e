import CharacterSheet.Evaluation.Judgement
import CharacterSheet.Proofs.Prerequisite.Conditions

/-!
# What a judgement asks for

A condition asks for owned items by their name, and a talent also by its tree (`Condition.Asks`). Only
the verdicts on those items reach the judgement: its diagnostics are theirs but for those on the
content of the condition itself, and neither they nor the outcome depend on anything else about the
`Recheck`. Where some diagnostics are ruled out, the verdicts only matter that report none of them.
-/

namespace CharacterSheet

/-! ## Asking for owned items -/

/-- The trees that a talent counts for. -/
def Item.trees (item : Item) : List String :=
  item.talentTree.toList ++ item.bonusTalentTree.toList

theorem Item.isInTree_iff {item : Item} {tree : String} :
    item.isInTree tree = true ↔ tree ∈ item.trees := by
  simp [isInTree, trees]

/-- The owned items that a condition may ask for. -/
inductive Condition.Asks (subject : Subject) : Condition → OwnedItem → Prop where
  /-- an asset goes by the name of the item -/
  | byName {kind : Asset} {o : OwnedItem} (owned : o ∈ subject.owned)
      (kind_eq : kind.ownedKind? = some o.item.kind) : Asks subject (.asset kind o.item.name) o
  /-- a talent goes by the name of a tree -/
  | byTree {tree : String} {o : OwnedItem} (owned : o ∈ subject.owned)
      (talent : o.item.kind = .talent) (inTree : o.item.isInTree tree = true) :
      Asks subject (.asset .talent tree) o

theorem Condition.Asks.mem_owned {subject : Subject} {condition : Condition} {o : OwnedItem}
    (h : condition.Asks subject o) : o ∈ subject.owned := by
  cases h <;> assumption

theorem Condition.asks_of_mem_traits {subject : Subject} {name : String} {o : OwnedItem}
    (h : o ∈ subject.owned.filter fun o => o.item.kind == .trait && o.item.name == name) :
    (Condition.asset .trait name).Asks subject o := by
  obtain ⟨howned, hname⟩ := List.mem_filter.mp h
  rw [Bool.and_eq_true, beq_iff_eq, beq_iff_eq] at hname
  obtain ⟨hkind, rfl⟩ := hname
  exact .byName howned (by rw [hkind]; rfl)

theorem Condition.asks_of_mem_talentsOf {subject : Subject} {tree : String} {o : OwnedItem}
    (h : o ∈ subject.talentsOf tree) : (Condition.asset .talent tree).Asks subject o := by
  obtain ⟨howned, htree⟩ := List.mem_filter.mp h
  rw [Bool.and_eq_true, beq_iff_eq] at htree
  exact .byTree howned htree.1 htree.2

namespace Subject

variable {subject : Subject} {recheck recheck' : Recheck}

/-- An owned item stands at its place among the items. -/
theorem mem_owned {o : OwnedItem} :
    o ∈ subject.owned ↔ subject.items[o.place]? = some o.item := by
  obtain ⟨item, place⟩ := o
  simp [owned, List.mem_zipIdx_iff_getElem?]

theorem map_item_owned (subject : Subject) : subject.owned.map (·.item) = subject.items := by
  simp [owned, Function.comp_def]

theorem item_mem_of_mem_owned {o : OwnedItem} (h : o ∈ subject.owned) : o.item ∈ subject.items :=
  List.mem_of_getElem? (mem_owned.mp h)

/-- At one place there is one item. -/
theorem eq_of_place_eq {o p : OwnedItem} (ho : o ∈ subject.owned) (hp : p ∈ subject.owned)
    (h : o.place = p.place) : o = p := by
  rw [mem_owned] at ho hp
  rw [h, hp] at ho
  cases o
  cases p
  simp_all

/-- Asking by kind and name is asking one item, whatever the way of asking, or nobody. -/
theorem recheckFirst_eq (subject : Subject) (kind : ItemKind) (name : String) :
    (∃ o ∈ subject.owned, o.item.kind = kind ∧ o.item.name = name ∧
        ∀ recheck, subject.recheckFirst recheck kind name = recheck o) ∨
      ∀ recheck, subject.recheckFirst recheck kind name = ⟨false, []⟩ := by
  cases h : subject.owned.find? fun o => o.item.kind == kind && o.item.name == name with
  | none =>
    right
    intro recheck
    rw [recheckFirst, h]
  | some o =>
    left
    have hfound := List.find?_some h
    rw [Bool.and_eq_true, beq_iff_eq, beq_iff_eq] at hfound
    refine ⟨o, List.mem_of_find?_eq_some h, hfound.1, hfound.2, fun recheck => ?_⟩
    rw [recheckFirst, h]

/-! ## Where diagnostics come from -/

theorem mem_diagnostics_recheckFirst {asset : Asset} {kind : ItemKind} {name : String}
    {d : Diagnostic} (hasset : asset.ownedKind? = some kind)
    (h : d ∈ (subject.recheckFirst recheck kind name).diagnostics) :
    ∃ o, (Condition.asset asset name).Asks subject o ∧ d ∈ (recheck o).diagnostics := by
  rcases subject.recheckFirst_eq kind name with ⟨o, ho, rfl, rfl, heq⟩ | heq
  · exact ⟨o, .byName ho hasset, heq recheck ▸ h⟩
  · rw [heq recheck] at h
    cases h

theorem mem_diagnostics_recheckAny {os : List OwnedItem} {d : Diagnostic}
    (h : d ∈ (recheckAny recheck os).diagnostics) : ∃ o ∈ os, d ∈ (recheck o).diagnostics := by
  induction os with
  | nil => cases h
  | cons o rest ih =>
    simp only [recheckAny] at h
    split at h
    · exact ⟨o, List.mem_cons_self, h⟩
    · rcases List.mem_append.mp h with h | h
      · exact ⟨o, List.mem_cons_self, h⟩
      · obtain ⟨p, hp, hd⟩ := ih h
        exact ⟨p, List.mem_cons_of_mem _ hp, hd⟩

end Subject

/-! ## Answers that match -/

/-- A relation on what is reported that holds of equal reports and of reports put together. -/
structure Joins (R : List Diagnostic → List Diagnostic → Prop) : Prop where
  refl : ∀ ds, R ds ds
  append : ∀ {ds ds' es es'}, R ds ds' → R es es' → R (ds ++ es) (ds' ++ es')

theorem Joins.eq : Joins Eq where
  refl _ := rfl
  append hleft hright := by rw [hleft, hright]

theorem Joins.flatMap {R : List Diagnostic → List Diagnostic → Prop} (joins : Joins R)
    {α : Type} {f g : α → List Diagnostic} {as : List α} (h : ∀ a ∈ as, R (f a) (g a)) :
    R (as.flatMap f) (as.flatMap g) := by
  induction as with
  | nil => exact joins.refl []
  | cons a as ih =>
    obtain ⟨ha, has⟩ := List.forall_mem_cons.mp h
    rw [List.flatMap_cons, List.flatMap_cons]
    exact joins.append ha (ih has)

/-- Two verdicts say the same, and what they report is related by `R`. -/
structure Verdict.Matches (R : List Diagnostic → List Diagnostic → Prop) (v w : Verdict) :
    Prop where
  stands : v.stands = w.stands
  diagnostics : R v.diagnostics w.diagnostics

/-- Two answers say the same, and what they report is related by `R`. -/
structure Answer.Matches (R : List Diagnostic → List Diagnostic → Prop) (a b : Answer) : Prop where
  outcome : a.outcome = b.outcome
  diagnostics : R a.diagnostics b.diagnostics

theorem Answer.eq_of_matches {a b : Answer} (h : a.Matches Eq b) : a = b := by
  obtain ⟨outcome, diagnostics⟩ := a
  obtain ⟨houtcome, hdiagnostics⟩ := h
  subst houtcome hdiagnostics
  rfl

theorem Answer.matches_refl {R : List Diagnostic → List Diagnostic → Prop} (joins : Joins R)
    (a : Answer) : a.Matches R a :=
  ⟨rfl, joins.refl _⟩

theorem Answer.Matches.trans {R : List Diagnostic → List Diagnostic → Prop} {a b c : Answer}
    (trans : ∀ {ds es fs}, R ds es → R es fs → R ds fs) (hab : a.Matches R b)
    (hbc : b.Matches R c) : a.Matches R c :=
  ⟨hab.outcome.trans hbc.outcome, trans hab.diagnostics hbc.diagnostics⟩

theorem Verdict.Matches.answer {R : List Diagnostic → List Diagnostic → Prop} {v w : Verdict}
    (h : v.Matches R w) (text : String) : (v.answer text).Matches R (w.answer text) :=
  ⟨congrArg (Outcome.ofBool text) h.stands, h.diagnostics⟩

namespace Subject

section matching

variable {subject : Subject} {recheck recheck' : Recheck} {P : Diagnostic → Prop}
  {R : List Diagnostic → List Diagnostic → Prop}

/-- Two ways of asking match on the first item of a name if they do where the second is clean. -/
theorem matches_recheckFirst (joins : Joins R) {asset : Asset} {kind : ItemKind} {name : String}
    (hasset : asset.ownedKind? = some kind)
    (agree : ∀ o, (Condition.asset asset name).Asks subject o →
      (∀ d ∈ (recheck o).diagnostics, P d) → (recheck' o).Matches R (recheck o))
    (clean : ∀ d ∈ (subject.recheckFirst recheck kind name).diagnostics, P d) :
    (subject.recheckFirst recheck' kind name).Matches R
      (subject.recheckFirst recheck kind name) := by
  rcases subject.recheckFirst_eq kind name with ⟨o, ho, rfl, rfl, heq⟩ | heq
  · rw [heq] at clean ⊢
    rw [heq]
    exact agree o (.byName ho hasset) clean
  · rw [heq, heq]
    exact ⟨rfl, joins.refl []⟩

/-- So they do on items in turn: behind the first that stands nobody is asked. -/
theorem matches_recheckAny (joins : Joins R) {os : List OwnedItem}
    (agree : ∀ o ∈ os,
      (∀ d ∈ (recheck o).diagnostics, P d) → (recheck' o).Matches R (recheck o))
    (clean : ∀ d ∈ (recheckAny recheck os).diagnostics, P d) :
    (recheckAny recheck' os).Matches R (recheckAny recheck os) := by
  induction os with
  | nil => exact ⟨rfl, joins.refl []⟩
  | cons o rest ih =>
    simp only [recheckAny] at clean ⊢
    by_cases hstands : (recheck o).stands = true
    · rw [if_pos hstands] at clean
      have heq := agree o List.mem_cons_self clean
      rw [if_pos hstands, if_pos (heq.stands.trans hstands)]
      exact heq
    · rw [if_neg hstands] at clean
      obtain ⟨here, later⟩ := List.forall_mem_append.mp clean
      have heq := agree o List.mem_cons_self here
      have hrest := ih (fun p hp => agree p (List.mem_cons_of_mem _ hp)) later
      rw [if_neg hstands, if_neg (heq.stands ▸ hstands)]
      exact ⟨hrest.stands, joins.append heq.diagnostics hrest.diagnostics⟩

/-- So they do on a talent, by its name and by its tree. -/
theorem matches_judgeTalent (joins : Joins R) {text name : String}
    (agree : ∀ o, (Condition.asset .talent name).Asks subject o →
      (∀ d ∈ (recheck o).diagnostics, P d) → (recheck' o).Matches R (recheck o))
    (clean : ∀ d ∈ (subject.judgeTalent recheck text name).diagnostics, P d) :
    (subject.judgeTalent recheck' text name).Matches R
      (subject.judgeTalent recheck text name) := by
  have byName : (∀ d ∈ (subject.recheckFirst recheck .talent name).diagnostics, P d) →
      (subject.recheckFirst recheck' .talent name).Matches R
        (subject.recheckFirst recheck .talent name) :=
    matches_recheckFirst joins rfl agree
  simp only [judgeTalent] at clean ⊢
  by_cases hstands : (subject.recheckFirst recheck .talent name).stands = true
  · rw [if_pos hstands] at clean
    have heq := byName clean
    rw [if_pos hstands, if_pos (heq.stands.trans hstands)]
    exact ⟨rfl, heq.diagnostics⟩
  · rw [if_neg hstands] at clean
    obtain ⟨first, tree⟩ := List.forall_mem_append.mp clean
    have heq := byName first
    rw [if_neg hstands, if_neg (heq.stands ▸ hstands)]
    -- every talent of the tree is asked, so all of them are clean
    have htree : ∀ o ∈ subject.talentsOf name, (recheck' o).Matches R (recheck o) :=
      fun o ho => agree o (Condition.asks_of_mem_talentsOf ho) fun d hd =>
        tree d (List.mem_flatMap.mpr ⟨recheck o, List.mem_map_of_mem ho, hd⟩)
    have hcount : ((subject.talentsOf name).map recheck').countP (·.stands) =
        ((subject.talentsOf name).map recheck).countP (·.stands) := by
      rw [List.countP_map, List.countP_map]
      exact List.countP_congr fun o ho => by simp [(htree o ho).stands]
    refine ⟨congrArg (fun n => Outcome.ofCount text (.ofNat n)) hcount, joins.append heq.diagnostics ?_⟩
    rw [List.flatMap_map, List.flatMap_map]
    exact joins.flatMap fun o ho => (htree o ho).diagnostics

end matching

end Subject

namespace Condition

variable {subject : Subject} {c : Contributions} {recheck recheck' : Recheck} {text : String}
  {condition : Condition}

/-- The diagnostics on an asset come from the items that are asked for. -/
theorem mem_diagnostics_judge_asset {kind : Asset} {name : String} {d : Diagnostic}
    (h : d ∈ (kind.judge subject recheck text name).diagnostics) :
    ∃ o, (Condition.asset kind name).Asks subject o ∧ d ∈ (recheck o).diagnostics := by
  cases kind with
  | item | species | trainedSkill | proficiency | gender | equipped => cases h
  | feat | heroicClass | tradition | technique => exact Subject.mem_diagnostics_recheckFirst rfl h
  | trait =>
    obtain ⟨o, ho, hd⟩ := Subject.mem_diagnostics_recheckAny h
    exact ⟨o, asks_of_mem_traits ho, hd⟩
  | talent =>
    simp only [Asset.judge, Subject.judgeTalent] at h
    split at h
    · exact Subject.mem_diagnostics_recheckFirst rfl h
    rcases List.mem_append.mp h with h | h
    · exact Subject.mem_diagnostics_recheckFirst rfl h
    · obtain ⟨_, hverdict, hd⟩ := List.mem_flatMap.mp h
      obtain ⟨o, ho, rfl⟩ := List.mem_map.mp hverdict
      exact ⟨o, asks_of_mem_talentsOf ho, hd⟩

/-- The diagnostics of a judgement come from the items it asks for, or are about its own content. -/
theorem mem_diagnostics_judge {d : Diagnostic}
    (h : d ∈ (condition.judge subject c recheck text).diagnostics) :
    (∃ o, condition.Asks subject o ∧ d ∈ (recheck o).diagnostics) ∨
      (∃ requirement, d = .unsupportedSpecial requirement) ∨
      ∃ tag text, d = .unsupportedTag tag text := by
  cases condition with
  | age low high =>
    rw [judge] at h
    split at h <;> cases h
  | characterLevel | baseAttackBonus | darkSideScore | techniqueCount | attributeSum => cases h
  | asset kind name => exact Or.inl (mem_diagnostics_judge_asset h)
  | special rule =>
    cases rule with
    | notDroid | droid | builtLightsaber => cases h
    | other requirement => exact Or.inr (Or.inl ⟨requirement, List.mem_singleton.mp h⟩)
  | unsupported tag requirement => exact Or.inr (Or.inr ⟨tag, text, List.mem_singleton.mp h⟩)

/-- Two ways of asking give answers that match if they match on the items that are asked for, where
the second is clean. -/
theorem matches_judge {P : Diagnostic → Prop} {R : List Diagnostic → List Diagnostic → Prop}
    (joins : Joins R)
    (agree : ∀ o, condition.Asks subject o →
      (∀ d ∈ (recheck o).diagnostics, P d) → (recheck' o).Matches R (recheck o))
    (clean : ∀ d ∈ (condition.judge subject c recheck text).diagnostics, P d) :
    (condition.judge subject c recheck' text).Matches R
      (condition.judge subject c recheck text) := by
  cases condition with
  | asset kind name =>
    cases kind with
    | item | species | trainedSkill | proficiency | gender | equipped =>
      exact Answer.matches_refl joins _
    | feat | heroicClass | tradition | technique =>
      exact (Subject.matches_recheckFirst joins rfl agree clean).answer text
    | trait =>
      exact (Subject.matches_recheckAny joins
        (fun o ho => agree o (asks_of_mem_traits ho)) clean).answer text
    | talent => exact Subject.matches_judgeTalent joins agree clean
  | _ => exact Answer.matches_refl joins _

/-- The answer stays the same if the verdicts do on the items that are asked for. -/
theorem judge_congr {P : Diagnostic → Prop}
    (agree : ∀ o, condition.Asks subject o →
      (∀ d ∈ (recheck o).diagnostics, P d) → recheck' o = recheck o)
    (clean : ∀ d ∈ (condition.judge subject c recheck text).diagnostics, P d) :
    condition.judge subject c recheck' text = condition.judge subject c recheck text := by
  refine Answer.eq_of_matches (matches_judge Joins.eq (fun o ho hclean => ?_) clean)
  rw [agree o ho hclean]
  exact ⟨rfl, rfl⟩

/-- The outcome stays the same if the same of those items stand. -/
theorem outcome_judge_congr {P : Diagnostic → Prop}
    (agree : ∀ o, condition.Asks subject o →
      (∀ d ∈ (recheck o).diagnostics, P d) → (recheck' o).stands = (recheck o).stands)
    (clean : ∀ d ∈ (condition.judge subject c recheck text).diagnostics, P d) :
    (condition.judge subject c recheck' text).outcome =
      (condition.judge subject c recheck text).outcome :=
  (matches_judge (R := fun _ _ => True) ⟨fun _ => trivial, fun _ _ => trivial⟩
    (fun o ho hclean => ⟨agree o ho hclean, trivial⟩) clean).outcome

end Condition

end CharacterSheet
