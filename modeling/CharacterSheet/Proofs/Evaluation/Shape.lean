import CharacterSheet.Proofs.Evaluation.Improvement
import CharacterSheet.Proofs.Evaluation.Pass

/-!
# The entries of a report

The entries of a report are trees. What stands alone comes from a leaf: it blocks, or it is the notice on
a special requirement. What has children groups the entries of a combination that is not met: there are
several of them, the label says what was asked, and the group blocks exactly if one of them does
(`Shortfall.IsSound`). So whether a report is blocked, which is read off its outermost entries, depends
on the innermost ones alone, and a report that passes holds nothing that blocks at any depth.
-/

namespace CharacterSheet

namespace Shortfall

/-! ## Entries below an entry -/

mutual

/-- An entry and all entries below it. -/
def entries : Shortfall → List Shortfall
  | ⟨isBlocking, message, children⟩ => ⟨isBlocking, message, children⟩ :: entriesList children

/-- The entries of a list and all entries below them. -/
def entriesList : List Shortfall → List Shortfall
  | [] => []
  | entry :: rest => entries entry ++ entriesList rest

end

theorem mem_entriesList {entry : Shortfall} {list : List Shortfall} :
    entry ∈ entriesList list ↔ ∃ top ∈ list, entry ∈ top.entries := by
  induction list with
  | nil => simp [entriesList]
  | cons top rest ih => simp [entriesList, ih]

theorem mem_entries {entry top : Shortfall} :
    entry ∈ top.entries ↔ entry = top ∨ ∃ child ∈ top.children, entry ∈ child.entries := by
  obtain ⟨isBlocking, message, children⟩ := top
  rw [entries, List.mem_cons, mem_entriesList]

/-- What holds of an entry if it holds of its children holds of every entry. -/
@[elab_as_elim]
theorem childInduction {motive : Shortfall → Prop}
    (step : ∀ entry : Shortfall, (∀ child ∈ entry.children, motive child) → motive entry)
    (entry : Shortfall) : motive entry :=
  step entry fun child _ => childInduction step child
termination_by sizeOf entry
decreasing_by
  obtain ⟨isBlocking, message, children⟩ := entry
  have := List.sizeOf_lt_of_mem ‹child ∈ _›
  simp only [Shortfall.mk.sizeOf_spec] at *
  omega

/-! ## Sound entries -/

/-- What an entry of a report keeps to. -/
structure IsSound (entry : Shortfall) : Prop where
  several : entry.children ≠ [] → 2 ≤ entry.children.length
  label : entry.children ≠ [] → (entry.message = "all of:" ∧ entry.isBlocking = true) ∨
    ∃ count : UInt32, entry.message = "at least of " ++ Text.natural count.toNat ++ ":"
  blocking : entry.children ≠ [] → entry.isBlocking = entry.children.any (·.isBlocking)
  notice : entry.children = [] → entry.isBlocking = false →
    ∃ text, entry.message = "SPECIAL: " ++ text

/-- The entry and all entries below it keep to it. -/
def IsSoundThroughout (top : Shortfall) : Prop :=
  ∀ entry ∈ top.entries, entry.IsSound

variable {entry : Shortfall}

theorem IsSoundThroughout.isSound (h : entry.IsSoundThroughout) : entry.IsSound :=
  h entry (mem_entries.mpr (Or.inl rfl))

theorem IsSoundThroughout.of_mem_children (h : entry.IsSoundThroughout) {child : Shortfall}
    (hchild : child ∈ entry.children) : child.IsSoundThroughout :=
  fun e he => h e (mem_entries.mpr (Or.inr ⟨child, hchild, he⟩))

theorem isSoundThroughout_of_children (h : entry.IsSound)
    (hchildren : ∀ child ∈ entry.children, child.IsSoundThroughout) :
    entry.IsSoundThroughout := by
  intro e he
  rcases mem_entries.mp he with rfl | ⟨child, hchild, he⟩
  · exact h
  · exact hchildren child hchild e he

theorem isSoundThroughout_blocking (text : String) : (blocking text).IsSoundThroughout :=
  isSoundThroughout_of_children
    ⟨fun h => absurd rfl h, fun h => absurd rfl h, fun h => absurd rfl h, fun _ h => nomatch h⟩
    (fun _ h => nomatch h)

theorem isSoundThroughout_notice (text : String) :
    (Shortfall.notice ("SPECIAL: " ++ text)).IsSoundThroughout :=
  isSoundThroughout_of_children
    ⟨fun h => absurd rfl h, fun h => absurd rfl h, fun h => absurd rfl h, fun _ _ => ⟨text, rfl⟩⟩
    (fun _ h => nomatch h)

/-- An entry that blocks has one below it, or is one, that blocks by itself. -/
theorem IsSoundThroughout.exists_childless (h : entry.IsSoundThroughout)
    (hblocks : entry.isBlocking = true) :
    ∃ e ∈ entry.entries, e.children = [] ∧ e.isBlocking = true := by
  induction entry using childInduction with
  | step entry ih =>
    by_cases hchildren : entry.children = []
    · exact ⟨entry, mem_entries.mpr (Or.inl rfl), hchildren, hblocks⟩
    rw [h.isSound.blocking hchildren, List.any_eq_true] at hblocks
    obtain ⟨child, hchild, hblocks⟩ := hblocks
    obtain ⟨e, he, hleaf⟩ := ih child hchild (h.of_mem_children hchild) hblocks
    exact ⟨e, mem_entries.mpr (Or.inr ⟨child, hchild, he⟩), hleaf⟩

/-- An entry blocks if one below it does. -/
theorem IsSoundThroughout.isBlocking_of_mem (h : entry.IsSoundThroughout) {e : Shortfall}
    (he : e ∈ entry.entries) (hblocks : e.isBlocking = true) : entry.isBlocking = true := by
  induction entry using childInduction with
  | step entry ih =>
    rcases mem_entries.mp he with rfl | ⟨child, hchild, he⟩
    · exact hblocks
    rw [h.isSound.blocking (List.ne_nil_of_mem hchild), List.any_eq_true]
    exact ⟨child, hchild, ih child hchild (h.of_mem_children hchild) he⟩

end Shortfall

/-! ## Sound reports -/

namespace Report

variable {r : Report}

/-- All entries of the report, at any depth. -/
def entries (r : Report) : List Shortfall :=
  Shortfall.entriesList r.shortfalls

/-- The entries of the report are sound throughout. -/
def IsSound (r : Report) : Prop :=
  ∀ entry ∈ r.shortfalls, entry.IsSoundThroughout

theorem isSound_join {rs : List Report} (h : ∀ r ∈ rs, r.IsSound) : (join rs).IsSound := by
  intro entry hentry
  obtain ⟨r, hr, hentry⟩ := List.mem_flatMap.mp hentry
  exact h r hr entry hentry

/-- Folding keeps entries sound, if the label says what was asked and the flag is that of the
entries. -/
theorem isSoundThroughout_of_mem_fold {label : String} {isBlocking : Bool}
    {entries : List Shortfall} (hentries : ∀ entry ∈ entries, entry.IsSoundThroughout)
    (hlabel : (label = "all of:" ∧ isBlocking = true) ∨
      ∃ count : UInt32, label = "at least of " ++ Text.natural count.toNat ++ ":")
    (hblocking : isBlocking = entries.any (·.isBlocking)) :
    ∀ entry ∈ fold label isBlocking entries, entry.IsSoundThroughout := by
  unfold fold
  split
  · next hseveral =>
    intro entry hentry
    obtain rfl := List.mem_singleton.mp hentry
    refine Shortfall.isSoundThroughout_of_children ⟨fun _ => hseveral, fun _ => hlabel,
      fun _ => hblocking, fun hnil => ?_⟩ hentries
    rw [show entries = [] from hnil] at hseveral
    cases hseveral
  · exact hentries

theorem IsSound.notices (h : r.IsSound) : ∀ entry ∈ r.notices, entry.IsSoundThroughout :=
  fun entry hentry => h entry (List.mem_filter.mp hentry).1

theorem IsSound.all (h : r.IsSound) (node : Prerequisite) : (Report.all node r).IsSound := by
  cases hblocked : r.isBlocked with
  | false =>
    rw [all_of_passes hblocked]
    exact h.notices
  | true =>
    rw [all_of_isBlocked hblocked]
    exact isSoundThroughout_of_mem_fold h (Or.inl ⟨rfl, rfl⟩) hblocked.symm

theorem IsSound.any (h : r.IsSound) (node : Prerequisite) (count : UInt32) :
    (Report.any node count r).IsSound := by
  by_cases hmet : count ≤ r.count
  · rw [any_of_le hmet]
    exact h.notices
  · rw [Report.any, if_neg hmet]
    cases r.shortfalls.isEmpty with
    | true =>
      intro entry hentry
      obtain rfl := List.mem_singleton.mp hentry
      exact Shortfall.isSoundThroughout_blocking _
    | false => exact isSoundThroughout_of_mem_fold h (Or.inr ⟨count, rfl⟩) rfl

theorem IsSound.isBlocked_of_mem (h : r.IsSound) {entry : Shortfall} (hentry : entry ∈ r.entries)
    (hblocks : entry.isBlocking = true) : r.isBlocked = true := by
  obtain ⟨top, htop, hbelow⟩ := Shortfall.mem_entriesList.mp hentry
  exact List.any_eq_true.mpr ⟨top, htop, (h top htop).isBlocking_of_mem hbelow hblocks⟩

/-- The innermost entries decide whether a sound report is blocked. -/
theorem IsSound.isBlocked_iff (h : r.IsSound) : r.isBlocked = true ↔
    ∃ entry ∈ r.entries, entry.children = [] ∧ entry.isBlocking = true := by
  constructor
  · intro hblocked
    obtain ⟨top, htop, hblocks⟩ := List.any_eq_true.mp hblocked
    obtain ⟨entry, hentry, hchildless⟩ := (h top htop).exists_childless hblocks
    exact ⟨entry, Shortfall.mem_entriesList.mpr ⟨top, htop, hentry⟩, hchildless⟩
  · rintro ⟨entry, hentry, -, hblocks⟩
    exact h.isBlocked_of_mem hentry hblocks

/-- Where nothing is blocked, nothing blocks at any depth. -/
theorem IsSound.passes_iff_forall (h : r.IsSound) :
    r.passes = true ↔ ∀ entry ∈ r.entries, entry.isBlocking = false := by
  rw [passes_iff]
  constructor
  · intro hpass entry hentry
    cases hblocks : entry.isBlocking with
    | false => rfl
    | true => rw [h.isBlocked_of_mem hentry hblocks] at hpass; cases hpass
  · intro hnone
    cases hblocked : r.isBlocked with
    | false => rfl
    | true =>
      obtain ⟨entry, hentry, -, hblocks⟩ := h.isBlocked_iff.mp hblocked
      rw [hnone entry hentry] at hblocks
      cases hblocks

end Report

/-! ## Sound judgements -/

/-- A condition that is met counts for something, and the entry that one leaves blocks, or is the notice
on a special requirement. -/
def Outcome.IsPlain : Outcome → Prop
  | .met count => 1 ≤ count
  | .entry shortfall => (∃ text, shortfall = .blocking text) ∨
      ∃ text, shortfall = .notice ("SPECIAL: " ++ text)

theorem Outcome.isPlain_ofBool (text : String) (isMet : Bool) : (ofBool text isMet).IsPlain := by
  cases isMet with
  | false => exact Or.inl ⟨text, rfl⟩
  | true => exact UInt32.le_refl 1

theorem Outcome.isPlain_ofCount (text : String) (count : UInt32) :
    (ofCount text count).IsPlain := by
  unfold ofCount
  split
  · next hcount => exact UInt32.le_iff_toNat_le.mpr (UInt32.lt_iff_toNat_lt.mp hcount)
  · exact Or.inl ⟨text, rfl⟩

theorem Condition.isPlain_outcome_judge (subject : Subject) (c : Contributions) (recheck : Recheck)
    (text : String) (condition : Condition) :
    (condition.judge subject c recheck text).outcome.IsPlain := by
  cases condition with
  | age low high =>
    rw [judge]
    split
    · exact UInt32.le_refl 1
    · exact Or.inl ⟨_, rfl⟩
  | asset kind name =>
    cases kind with
    | talent =>
      simp only [judge, Asset.judge, Subject.judgeTalent]
      split
      · exact UInt32.le_refl 1
      · exact Outcome.isPlain_ofCount _ _
    | _ => exact Outcome.isPlain_ofBool _ _
  | special rule =>
    cases rule with
    | notDroid | droid => exact Outcome.isPlain_ofBool _ _
    | builtLightsaber => exact Or.inr ⟨text, rfl⟩
    | other requirement => exact Or.inl ⟨text, rfl⟩
  | unsupported tag requirement => exact Or.inl ⟨text, rfl⟩
  | _ => exact Outcome.isPlain_ofBool _ _

theorem Report.isSound_leaf (node : Prerequisite) {answer : Answer} (h : answer.outcome.IsPlain) :
    (Report.leaf node answer).IsSound := by
  obtain ⟨outcome, diagnostics⟩ := answer
  intro entry hentry
  cases outcome with
  | met count => cases hentry
  | entry shortfall =>
    obtain rfl := List.mem_singleton.mp hentry
    rcases h with ⟨text, rfl⟩ | ⟨text, rfl⟩
    · exact Shortfall.isSoundThroughout_blocking text
    · exact Shortfall.isSoundThroughout_notice text

namespace Subject

variable {subject : Subject} {c : Contributions} {maxDepth room : Nat} {busy : List OwnedItem}

theorem isSound_judgeList {nodes : List Prerequisite}
    (h : ∀ node, (subject.judge c maxDepth room busy node).IsSound) :
    (subject.judgeList c maxDepth room busy nodes).IsSound := by
  refine Report.isSound_join fun r hr => ?_
  obtain ⟨node, -, rfl⟩ := List.mem_map.mp hr
  exact h node

theorem isSound_judge (subject : Subject) (c : Contributions) (maxDepth room : Nat)
    (busy : List OwnedItem) (node : Prerequisite) :
    (subject.judge c maxDepth room busy node).IsSound := by
  induction room generalizing busy node with
  | zero =>
    rw [judge_zero]
    intro entry hentry
    obtain rfl := List.mem_singleton.mp hentry
    exact Shortfall.isSoundThroughout_blocking _
  | succ room ih =>
    cases node with
    | leaf text condition =>
      rw [judge_leaf]
      exact Report.isSound_leaf _ (condition.isPlain_outcome_judge _ _ _ text)
    | all text nodes =>
      rw [judge_all]
      exact (isSound_judgeList (ih busy)).all _
    | any text count nodes =>
      rw [judge_any]
      exact (isSound_judgeList (ih busy)).any _ count

/-- Every entry of a report, at any depth, is sound. So a report is blocked exactly if an entry without
children blocks, wherever it stands, and passes exactly if no entry blocks at any depth. -/
theorem isSound_entries_report (subject : Subject) (settings : Settings)
    (nodes : List Prerequisite) :
    (∀ entry ∈ (subject.report settings nodes).entries, entry.IsSound) ∧
      ((subject.report settings nodes).isBlocked = true ↔
        ∃ entry ∈ (subject.report settings nodes).entries,
          entry.children = [] ∧ entry.isBlocking = true) ∧
      ((subject.report settings nodes).passes = true ↔
        ∀ entry ∈ (subject.report settings nodes).entries, entry.isBlocking = false) := by
  have sound : (subject.report settings nodes).IsSound := by
    rw [report_eq_judgeList]
    exact isSound_judgeList (subject.isSound_judge _ _ _ _)
  refine ⟨?_, sound.isBlocked_iff, sound.passes_iff_forall⟩
  intro entry hentry
  obtain ⟨top, htop, hbelow⟩ := Shortfall.mem_entriesList.mp hentry
  exact sound top htop entry hbelow

end Subject

end CharacterSheet
