import CharacterSheet.Compendium.Order
import CharacterSheet.Proofs.Compendium.Loops

/-!
# A compendium without loops has an order

Where no way along links leads back to where it started, the walk comes to an end with every entry done,
each of them behind what it requires. An entry that is met and not done (`Walk.IsOpen`) lies on the
stack, and what lies above its topmost copy (`Walk.above`) are entries that it leads to. All its
requirements are done or among those, so they are done when it is on top again. A requirement that is
open itself would lie below, and lead back to the entry that requires it.
-/

namespace CharacterSheet

open Relation

variable {c : Compendium} {entry : Entry} {rest : List Entry}

namespace Walk

variable {walk : Walk c}

/-- The walk has met the entry and is not done with it. -/
def IsOpen (walk : Walk c) (entry : Entry) : Prop :=
  entry ∈ walk.met ∧ entry ∉ walk.done

/-- What lies on the stack above the topmost copy of an entry. -/
def above (walk : Walk c) (entry : Entry) : List Entry :=
  walk.stack.takeWhile (· != entry)

/-- What a walk keeps to. -/
structure Sound (walk : Walk c) : Prop where
  nodup : walk.done.Nodup
  met_subset : walk.met ⊆ c.entries
  done_subset : walk.done ⊆ walk.met
  /-- nothing that is done requires what is done later -/
  ordered : walk.done.Pairwise fun a b => ¬ c.Requires a b
  /-- and nothing that is not done at all -/
  closed : ∀ a ∈ walk.done, ∀ b, c.Requires a b → b ∈ walk.done
  mem_stack : ∀ a, walk.IsOpen a → a ∈ walk.stack
  /-- what an open entry requires is done before it -/
  covered : ∀ a, walk.IsOpen a → ∀ b, c.Requires a b → b ∈ walk.done ∨ b ∈ walk.above a
  leads : ∀ a, walk.IsOpen a → ∀ b ∈ walk.above a, TransGen c.Requires a b

/-! ## The stack above an entry -/

theorem above_of_top (h : walk.stack = entry :: rest) : walk.above entry = [] := by
  simp [above, h]

theorem above_of_ne {a : Entry} (h : walk.stack = entry :: rest) (hne : entry ≠ a) :
    walk.above a = entry :: (walk.leave entry).above a := by
  simp [above, leave, h, hne]

/-- The new entries go above all others that were met. -/
theorem above_meet_of_met {a : Entry} (ha : a ∈ walk.met) :
    (walk.meet entry).above a =
      (c.requirements entry).filter (· ∉ entry :: walk.met) ++ walk.above a := by
  refine List.takeWhile_append_of_pos fun b hb => ?_
  have hnew := of_decide_eq_true (List.mem_filter.mp hb).2
  exact bne_iff_ne.mpr fun heq => hnew (heq ▸ List.mem_cons_of_mem _ ha)

theorem above_meet_self (h : walk.stack = entry :: rest) :
    (walk.meet entry).above entry =
      (c.requirements entry).filter (· ∉ entry :: walk.met) := by
  rw [above, meet, List.takeWhile_append_of_pos, h]
  · simp
  · intro b hb
    have hnew := of_decide_eq_true (List.mem_filter.mp hb).2
    exact bne_iff_ne.mpr fun heq => hnew (heq ▸ List.mem_cons_self)

/-! ## One step -/

theorem sound_start : Sound ({} : Walk c) where
  nodup := List.nodup_nil
  met_subset := List.nil_subset _
  done_subset := List.Subset.refl _
  ordered := List.Pairwise.nil
  closed _ h := nomatch h
  mem_stack _ h := nomatch h.1
  covered _ h := nomatch h.1
  leads _ h := nomatch h.1

theorem Sound.push (h : walk.Sound) (hidle : walk.stack = []) (hentry : entry ∈ c.entries) :
    (walk.push entry hentry).Sound := by
  have hnone : ∀ a, ¬ walk.IsOpen a := by
    intro a ha
    have := h.mem_stack a ha
    rw [hidle] at this
    cases this
  exact ⟨h.nodup, h.met_subset, h.done_subset, h.ordered, h.closed,
    fun a ha => absurd ha (hnone a), fun a ha => absurd ha (hnone a),
    fun a ha => absurd ha (hnone a)⟩

/-- What is open once the walk is done with the entry on top was open below it before. -/
theorem isOpen_of_leave {a : Entry} (h : (walk.leave entry).IsOpen a) :
    walk.IsOpen a ∧ entry ≠ a := by
  have hnot : a ≠ entry ∧ a ∉ walk.done := not_or.mp (mem_appendNew.not.mp h.2)
  exact ⟨⟨h.1, hnot.2⟩, hnot.1.symm⟩

/-- Whether the entry on top is open or done, all that it requires is done. -/
theorem Sound.mem_done_of_requires (h : walk.Sound) (hstack : walk.stack = entry :: rest)
    (hmet : entry ∈ walk.met) {b : Entry} (hb : c.Requires entry b) : b ∈ walk.done := by
  by_cases hdone : entry ∈ walk.done
  · exact h.closed entry hdone b hb
  · have hcovered := h.covered entry ⟨hmet, hdone⟩ b hb
    simpa [above_of_top hstack] using hcovered

theorem Sound.leave (h : walk.Sound) (hstack : walk.stack = entry :: rest)
    (hmet : entry ∈ walk.met) : (walk.leave entry).Sound where
  nodup := nodup_appendNew h.nodup
  met_subset := h.met_subset
  done_subset a ha := by
    rcases mem_appendNew.mp ha with rfl | ha
    · exact hmet
    · exact h.done_subset ha
  ordered := by
    show (appendNew entry walk.done).Pairwise _
    unfold appendNew
    split
    · exact h.ordered
    · next hdone =>
      refine List.pairwise_append.mpr ⟨h.ordered, List.pairwise_singleton _ _, ?_⟩
      intro a ha b hb hab
      obtain rfl := List.mem_singleton.mp hb
      exact hdone (h.closed a ha b hab)
  closed a ha b hb := by
    rcases mem_appendNew.mp ha with rfl | ha
    · exact mem_appendNew.mpr (Or.inr (h.mem_done_of_requires hstack hmet hb))
    · exact mem_appendNew.mpr (Or.inr (h.closed a ha b hb))
  mem_stack a ha := by
    obtain ⟨ha, hne⟩ := isOpen_of_leave ha
    have hmem := h.mem_stack a ha
    show a ∈ walk.stack.tail
    rw [hstack, List.mem_cons] at hmem
    rw [hstack]
    exact hmem.resolve_left hne.symm
  covered a ha b hb := by
    obtain ⟨ha, hne⟩ := isOpen_of_leave ha
    have hcovered := h.covered a ha b hb
    rw [above_of_ne hstack hne, List.mem_cons] at hcovered
    rcases hcovered with hdone | rfl | habove
    · exact Or.inl (mem_appendNew.mpr (Or.inr hdone))
    · exact Or.inl (mem_appendNew.mpr (Or.inl rfl))
    · exact Or.inr habove
  leads a ha b hb := by
    obtain ⟨ha, hne⟩ := isOpen_of_leave ha
    refine h.leads a ha b ?_
    rw [above_of_ne hstack hne]
    exact List.mem_cons_of_mem _ hb

theorem isOpen_of_meet {a : Entry} (h : (walk.meet entry).IsOpen a) :
    a = entry ∨ walk.IsOpen a :=
  (List.mem_cons.mp h.1).imp_right fun hmet => ⟨hmet, h.2⟩

/-- Everything open leads to a new entry on top. -/
theorem Sound.leads_top (h : walk.Sound) (hstack : walk.stack = entry :: rest)
    (hnew : entry ∉ walk.met) {a : Entry} (ha : walk.IsOpen a) : TransGen c.Requires a entry := by
  have hne : entry ≠ a := fun heq => hnew (heq ▸ ha.1)
  refine h.leads a ha entry ?_
  rw [above_of_ne hstack hne]
  exact List.mem_cons_self

theorem requires_of_mem_new {a b : Entry} (h : b ∈ (c.requirements a).filter (· ∉ a :: walk.met)) :
    c.Requires a b :=
  Compendium.mem_requirements.mp (List.mem_filter.mp h).1

theorem Sound.meet (acyclic : ∀ e, ¬ TransGen c.Requires e e) (h : walk.Sound)
    (hstack : walk.stack = entry :: rest) (hnew : entry ∉ walk.met) : (walk.meet entry).Sound where
  nodup := h.nodup
  met_subset := by
    have htop : entry ∈ walk.stack := hstack ▸ List.mem_cons_self
    exact List.cons_subset.mpr ⟨walk.stack_subset htop, h.met_subset⟩
  done_subset _ ha := List.mem_cons_of_mem _ (h.done_subset ha)
  ordered := h.ordered
  closed := h.closed
  mem_stack a ha := by
    refine List.mem_append_right _ ?_
    rcases isOpen_of_meet ha with rfl | ha
    · rw [hstack]
      exact List.mem_cons_self
    · exact h.mem_stack a ha
  covered a ha b hb := by
    rcases isOpen_of_meet ha with rfl | ha
    · by_cases hdone : b ∈ walk.done
      · exact Or.inl hdone
      right
      rw [above_meet_self hstack]
      refine List.mem_filter.mpr ⟨Compendium.mem_requirements.mpr hb, decide_eq_true ?_⟩
      -- a requirement that is open leads back to the entry, which closes a loop
      intro hmet
      rcases List.mem_cons.mp hmet with rfl | hmet
      · exact acyclic b (TransGen.single hb)
      · exact acyclic b ((h.leads_top hstack hnew ⟨hmet, hdone⟩).tail hb)
    · rw [above_meet_of_met ha.1]
      exact (h.covered a ha b hb).imp_right (List.mem_append_right _)
  leads a ha b hb := by
    rcases isOpen_of_meet ha with rfl | ha
    · rw [above_meet_self hstack] at hb
      exact TransGen.single (requires_of_mem_new hb)
    · rw [above_meet_of_met ha.1] at hb
      rcases List.mem_append.mp hb with hb | hb
      · exact (h.leads_top hstack hnew ha).tail (requires_of_mem_new hb)
      · exact h.leads a ha b hb

/-! ## A whole walk -/

/-- Without loops a walk ends, with everything met that lay on its stack. -/
theorem Sound.run (acyclic : ∀ e, ¬ TransGen c.Requires e e) (walk : Walk c) (h : walk.Sound) :
    ∃ walk', walk.run = .ok walk' ∧ walk'.Sound ∧ walk'.stack = [] ∧ walk.met ⊆ walk'.met ∧
      walk.stack ⊆ walk'.met := by
  induction walk using Walk.run.induct with
  | case1 walk hstack =>
    exact ⟨walk, run_of_nil hstack, h, hstack, List.Subset.refl _, hstack ▸ List.nil_subset _⟩
  | case2 walk entry rest hstack hmet ih =>
    obtain ⟨walk', hrun, hsound, hidle, hmore, hseen⟩ := ih (h.leave hstack hmet)
    refine ⟨walk', (run_of_met hstack hmet).trans hrun, hsound, hidle, hmore, ?_⟩
    have hrest : rest ⊆ walk'.met := by simpa [Walk.leave, hstack] using hseen
    rw [hstack]
    exact List.cons_subset.mpr ⟨hmore hmet, hrest⟩
  | case3 walk entry rest hstack hmet hself =>
    exact absurd (TransGen.single (Compendium.mem_requirements.mp hself)) (acyclic entry)
  | case4 walk entry rest hstack hmet hself ih =>
    obtain ⟨walk', hrun, hsound, hidle, hmore, hseen⟩ := ih (h.meet acyclic hstack hmet)
    exact ⟨walk', (run_of_new hstack hmet hself).trans hrun, hsound, hidle,
      (List.cons_subset.mp hmore).2, (List.append_subset.mp hseen).2⟩

/-- A walk with nothing left on its stack is done with all that it met. -/
theorem Sound.mem_done_iff (h : walk.Sound) (hidle : walk.stack = []) :
    entry ∈ walk.done ↔ entry ∈ walk.met := by
  refine ⟨fun hdone => h.done_subset hdone, fun hmet => ?_⟩
  by_contra hdone
  have := h.mem_stack entry ⟨hmet, hdone⟩
  rw [hidle] at this
  cases this

theorem Sound.explore (acyclic : ∀ e, ¬ TransGen c.Requires e e) (h : walk.Sound)
    (hidle : walk.stack = []) (entry : {entry // entry ∈ c.entries}) :
    ∃ walk', walk.explore entry = .ok walk' ∧ walk'.Sound ∧ walk'.stack = [] ∧
      walk.met ⊆ walk'.met ∧ entry.1 ∈ walk'.met := by
  by_cases hmet : entry.1 ∈ walk.met
  · exact ⟨walk, if_pos hmet, h, hidle, List.Subset.refl _, hmet⟩
  · obtain ⟨walk', hrun, hsound, hidle', hmore, hseen⟩ :=
      Sound.run acyclic _ (h.push hidle entry.2)
    exact ⟨walk', (if_neg hmet).trans hrun, hsound, hidle', hmore, hseen List.mem_cons_self⟩

theorem Sound.foldlM_explore (acyclic : ∀ e, ¬ TransGen c.Requires e e) (h : walk.Sound)
    (hidle : walk.stack = []) (todo : List {entry // entry ∈ c.entries}) :
    ∃ walk', todo.foldlM Walk.explore walk = .ok walk' ∧ walk'.Sound ∧ walk'.stack = [] ∧
      walk.met ⊆ walk'.met ∧ ∀ entry ∈ todo, entry.1 ∈ walk'.met := by
  induction todo generalizing walk with
  | nil => exact ⟨walk, rfl, h, hidle, List.Subset.refl _, by simp⟩
  | cons entry todo ih =>
    obtain ⟨walk₁, hwalk₁, h₁, hidle₁, hmore₁, hentry⟩ := h.explore acyclic hidle entry
    obtain ⟨walk₂, hwalk₂, h₂, hidle₂, hmore₂, htodo⟩ := ih h₁ hidle₁
    refine ⟨walk₂, ?_, h₂, hidle₂, List.Subset.trans hmore₁ hmore₂,
      List.forall_mem_cons.mpr ⟨hmore₂ hentry, htodo⟩⟩
    rw [List.foldlM_cons, hwalk₁]
    exact hwalk₂

end Walk

namespace Compendium

/-- Without loops the walk through all entries comes to its end and is done with all of them. -/
theorem exists_walkAll_eq_ok (acyclic : ∀ e, ¬ TransGen c.Requires e e) :
    ∃ walk, c.walkAll = .ok walk ∧ walk.Sound ∧ ∀ e, e ∈ walk.done ↔ e ∈ c.entries := by
  obtain ⟨walk, hwalk, hsound, hidle, -, hall⟩ :=
    Walk.sound_start.foldlM_explore acyclic rfl c.entries.attach
  refine ⟨walk, hwalk, hsound, fun e => (hsound.mem_done_iff hidle).trans ⟨?_, fun he => ?_⟩⟩
  · exact fun he => hsound.met_subset he
  · exact hall ⟨e, he⟩ (List.mem_attach _ _)

/-! ## The order -/

/-- In an order of all entries in which no entry requires one behind it, none is misplaced. -/
theorem misplaced?_eq_none {passed before : List Entry}
    (hall : ∀ e ∈ c.entries, e ∈ before ∨ e ∈ passed)
    (h : before.Pairwise fun a b => ¬ c.Requires b a) : c.misplaced? passed before = none := by
  induction before generalizing passed with
  | nil => rfl
  | cons entry before ih =>
    obtain ⟨hentry, hbefore⟩ := List.pairwise_cons.mp h
    have hfind : (c.links.find? fun link => link.2 = entry ∧ link.1 ∉ entry :: passed) = none := by
      refine List.find?_eq_none.mpr fun link hlink hmisplaced => ?_
      obtain ⟨rfl, hnot⟩ := of_decide_eq_true hmisplaced
      obtain ⟨hself, hpassed⟩ := not_or.mp (List.mem_cons.not.mp hnot)
      rcases hall link.1 (c.mem_of_link link hlink).1 with hmem | hmem
      · exact hentry link.1 ((List.mem_cons.mp hmem).resolve_left hself) hlink
      · exact hpassed hmem
    rw [misplaced?, hfind]
    refine ih (fun e he => ?_) hbefore
    rw [List.mem_cons]
    rcases hall e he with hmem | hmem
    · exact (List.mem_cons.mp hmem).elim (fun heq => Or.inr (Or.inl heq)) Or.inl
    · exact Or.inr (Or.inr hmem)

/-- Without loops sorting gives what the walk was done with. -/
theorem exists_sort_eq_ok (acyclic : ∀ e, ¬ TransGen c.Requires e e) :
    ∃ entries, c.sort = .ok entries ∧ entries.Nodup ∧ (∀ e, e ∈ entries ↔ e ∈ c.entries) ∧
      entries.Pairwise fun a b => ¬ c.Requires a b := by
  obtain ⟨walk, hwalk, hsound, hall⟩ := exists_walkAll_eq_ok acyclic
  refine ⟨walk.done, ?_, hsound.nodup, hall, hsound.ordered⟩
  have hplaced : c.misplaced? [] walk.done.reverse = none := by
    refine misplaced?_eq_none (fun e he => ?_) (List.pairwise_reverse.mpr hsound.ordered)
    exact Or.inl (List.mem_reverse.mpr ((hall e).mpr he))
  rw [sort, hwalk]
  simp only [hplaced]

/-- If no entry requires one behind it, and the entry at hand does not require itself, then what it
requires stands in front of it. -/
theorem idxOf_lt_of_requires {entries : List Entry} {a b : Entry}
    (hall : ∀ e, e ∈ entries ↔ e ∈ c.entries)
    (ordered : entries.Pairwise fun a b => ¬ c.Requires a b) (hself : ¬ c.Requires a a)
    (h : c.Requires a b) : entries.idxOf b < entries.idxOf a := by
  have ha : entries.idxOf a < entries.length :=
    List.idxOf_lt_length_iff.mpr ((hall a).mpr h.mem_entries.1)
  have hb : entries.idxOf b < entries.length :=
    List.idxOf_lt_length_iff.mpr ((hall b).mpr h.mem_entries.2)
  rcases Nat.lt_trichotomy (entries.idxOf b) (entries.idxOf a) with hlt | heq | hgt
  · exact hlt
  · rw [List.idxOf_inj ((hall b).mpr h.mem_entries.2)] at heq
    exact absurd (heq ▸ h) hself
  · have := List.pairwise_iff_getElem.mp ordered _ _ ha hb hgt
    rw [List.getElem_idxOf, List.getElem_idxOf] at this
    exact absurd h this

/-- If the check for loops passes, there is an order: it holds every entry once, and what an entry
requires stands in front of it. Otherwise asking for the order gives the fault of the check. -/
theorem order_puts_requirements_first (c : Compendium) :
    (c.checkLoops = .ok () → ∃ entries, c.order = .ok entries ∧ entries.Nodup ∧
      (∀ e, e ∈ entries ↔ e ∈ c.entries) ∧
      ∀ a b, c.Requires a b → entries.idxOf b < entries.idxOf a) ∧
    ∀ fault, c.checkLoops = .error fault → c.order = .error fault := by
  refine ⟨fun pass => ?_, fun fault h => by rw [order, h]; rfl⟩
  have acyclic := not_transGen_of_checkLoops pass
  obtain ⟨entries, hsort, hnodup, hall, ordered⟩ := exists_sort_eq_ok acyclic
  refine ⟨entries, ?_, hnodup, hall, fun a b h => ?_⟩
  · rw [order, pass, hsort]
    rfl
  · exact idxOf_lt_of_requires hall ordered (fun hself => acyclic a (.single hself)) h

/-- A feat that requires two others, of which one requires the other. The walk has the last of them on
its stack twice. -/
def duelling : Compendium :=
  ((empty.link ⟨.feat, "Duel"⟩ ⟨.feat, "Fence"⟩).link ⟨.feat, "Duel"⟩ ⟨.feat, "Parry"⟩).link
    ⟨.feat, "Fence"⟩ ⟨.feat, "Parry"⟩

theorem order_duelling_puts_requirements_first :
    duelling.checkLoops = .ok () ∧ duelling.Requires ⟨.feat, "Duel"⟩ ⟨.feat, "Parry"⟩ ∧
      (∃ entries, duelling.order = .ok entries ∧ entries.Nodup ∧
        (∀ e, e ∈ entries ↔ e ∈ duelling.entries) ∧
        entries.idxOf ⟨.feat, "Parry"⟩ < entries.idxOf ⟨.feat, "Duel"⟩) ∧
      (duelling.link ⟨.feat, "Parry"⟩ ⟨.feat, "Duel"⟩).checkLoops =
        .error (.cycle ["Duel", "Parry", "Duel"]) ∧
      (duelling.link ⟨.feat, "Parry"⟩ ⟨.feat, "Duel"⟩).order =
        .error (.cycle ["Duel", "Parry", "Duel"]) := by
  have pass : duelling.checkLoops = .ok () := rfl
  have fault : (duelling.link ⟨.feat, "Parry"⟩ ⟨.feat, "Duel"⟩).checkLoops =
      .error (.cycle ["Duel", "Parry", "Duel"]) := rfl
  have hlink : duelling.Requires ⟨.feat, "Duel"⟩ ⟨.feat, "Parry"⟩ :=
    requires_link.mpr (Or.inr (requires_link.mpr (Or.inl ⟨rfl, rfl⟩)))
  obtain ⟨entries, horder, hnodup, hall, hfirst⟩ := (order_puts_requirements_first duelling).1 pass
  exact ⟨pass, hlink, ⟨entries, horder, hnodup, hall, hfirst _ _ hlink⟩, fault,
    (order_puts_requirements_first _).2 _ fault⟩

end Compendium

end CharacterSheet
