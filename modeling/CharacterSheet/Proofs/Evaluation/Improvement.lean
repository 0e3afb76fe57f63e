import CharacterSheet.Evaluation.Judgement

/-!
# When a report improves on another

A report that is passed on by combinations is read in three ways only: how much it counts, whether it
is blocked, and whether there are notices in it. The last matters, because a combination that misses
its count is blocked if its children have nothing to say, and is not if all that they say are notices.
`ImprovesTo` compares two reports in these three ways, and combining reports keeps it.

Nobody reads a count further than to what a combination asks for: `ImprovesTo` has that number as a
bound, and what counts more than it may come to count less, down to it.

Counts are compared by their exact total (`Report.tally`). A count of 32 bits never exceeds it, and is
equal to it where it fits. So only the better of two reports has to fit: the other one counts no more
than it seems to.
-/

namespace CharacterSheet

namespace Report

variable {r r' : Report} {bound : Nat}

/-! ## Exact counts -/

/-- How much the credits count together, without a bound on the number. -/
def tally (r : Report) : Nat :=
  Reckoning.exactTotal (r.credits.map (·.count))

theorem toNat_count_le (r : Report) : r.count.toNat ≤ r.tally := by
  rw [count, Reckoning.total_eq_ofNat, UInt32.toNat_ofNat']
  exact Nat.mod_le _ _

theorem toNat_count (h : r.tally < UInt32.size) : r.count.toNat = r.tally :=
  Reckoning.toNat_total h

/-! ## Joined reports -/

theorem tally_join_cons (r : Report) (rs : List Report) :
    (join (r :: rs)).tally = r.tally + (join rs).tally := by
  simp [join, tally, Reckoning.exactTotal_append]

theorem isBlocked_join_cons (r : Report) (rs : List Report) :
    (join (r :: rs)).isBlocked = (r.isBlocked || (join rs).isBlocked) := by
  rw [isBlocked_join, isBlocked_join, List.any_cons]

theorem notices_join_cons (r : Report) (rs : List Report) :
    (join (r :: rs)).notices = r.notices ++ (join rs).notices := by
  simp [join, notices]

/-! ## Entries that block and entries that do not -/

theorem passes_iff : r.passes = true ↔ r.isBlocked = false := by
  simp [passes]

/-- Without anything that blocks, all entries are notices. -/
theorem notices_eq_shortfalls (h : r.isBlocked = false) : r.notices = r.shortfalls := by
  refine List.filter_eq_self.mpr fun entry hentry => ?_
  have := List.any_eq_false.mp h entry hentry
  simpa using this

/-- A single entry that blocks leaves no notice. -/
theorem notices_eq_nil (h : r.isBlocked = true) (hlength : r.shortfalls.length ≤ 1) :
    r.notices = [] := by
  obtain ⟨entry, hentry, hblocking⟩ := List.any_eq_true.mp h
  obtain ⟨only, honly⟩ := List.length_eq_one_iff.mp
    (Nat.le_antisymm hlength (List.length_pos_of_mem hentry))
  rw [honly] at hentry
  obtain rfl := List.mem_singleton.mp hentry
  simp [notices, honly, hblocking]

/-- Notices do not block. -/
theorem any_isBlocking_notices (r : Report) : r.notices.any (·.isBlocking) = false := by
  refine List.any_eq_false.mpr fun entry hentry => ?_
  have := (List.mem_filter.mp hentry).2
  simpa using this

/-! ## Folded entries -/

theorem length_fold_le (label : String) (isBlocking : Bool) (entries : List Shortfall) :
    (fold label isBlocking entries).length ≤ 1 := by
  unfold fold
  split
  · exact Nat.le_refl 1
  · omega

theorem fold_eq_nil_iff {label : String} {isBlocking : Bool} {entries : List Shortfall} :
    fold label isBlocking entries = [] ↔ entries = [] := by
  unfold fold
  split
  · next h =>
    refine ⟨(nomatch ·), fun hnil => ?_⟩
    rw [hnil] at h
    cases h
  · rfl

/-- An entry that stands for others blocks if one of them does. -/
theorem any_isBlocking_fold (label : String) {isBlocking : Bool} {entries : List Shortfall}
    (h : entries.any (·.isBlocking) = isBlocking) :
    (fold label isBlocking entries).any (·.isBlocking) = isBlocking := by
  unfold fold
  split
  · simp
  · exact h

/-! ## Reports on combinations -/

section combinations

variable {node : Prerequisite} {count : UInt32}

theorem all_of_passes (h : r.isBlocked = false) :
    all node r = { shortfalls := r.notices, credits := [⟨node, 1⟩], diagnostics := r.diagnostics } :=
  if_pos (passes_iff.mpr h)

theorem all_of_isBlocked (h : r.isBlocked = true) :
    all node r =
      { shortfalls := fold "all of:" true r.shortfalls, diagnostics := r.diagnostics } :=
  if_neg (by simp [passes, h])

/-- Asking for all is blocked with the children. -/
theorem isBlocked_all (node : Prerequisite) (r : Report) :
    (all node r).isBlocked = r.isBlocked := by
  cases h : r.isBlocked with
  | false =>
    rw [all_of_passes h]
    exact any_isBlocking_notices r
  | true =>
    rw [all_of_isBlocked h]
    exact any_isBlocking_fold "all of:" h

theorem notices_all_of_isBlocked (h : r.isBlocked = true) : (all node r).notices = [] := by
  refine notices_eq_nil (by rw [isBlocked_all, h]) ?_
  rw [all_of_isBlocked h]
  exact length_fold_le _ _ _

theorem any_of_le (h : count ≤ r.count) :
    any node count r =
      { shortfalls := r.notices, credits := [⟨node, 1⟩], diagnostics := r.diagnostics } :=
  if_pos h

theorem isBlocked_any_of_le (h : count ≤ r.count) : (any node count r).isBlocked = false := by
  rw [any_of_le h]
  exact any_isBlocking_notices r

theorem notices_any_of_le (h : count ≤ r.count) : (any node count r).notices = r.notices := by
  rw [notices_eq_shortfalls (isBlocked_any_of_le h), any_of_le h]

/-- A missed count costs all credit. -/
theorem tally_any_of_not_le (h : ¬ count ≤ r.count) : (any node count r).tally = 0 := by
  rw [any, if_neg h]
  rfl

/-- With a missed count, the entry blocks unless the children have nothing but notices. -/
theorem isBlocked_any_of_not_le (h : ¬ count ≤ r.count) :
    (any node count r).isBlocked = (r.shortfalls.isEmpty || r.isBlocked) := by
  rw [any, if_neg h]
  cases hempty : r.shortfalls.isEmpty with
  | true => simp [isBlocked, Shortfall.blocking]
  | false => simpa [isBlocked] using any_isBlocking_fold _ rfl

theorem length_shortfalls_any_le (h : ¬ count ≤ r.count) :
    (any node count r).shortfalls.length ≤ 1 := by
  rw [any, if_neg h]
  dsimp only
  split
  · exact Nat.le_refl 1
  · exact length_fold_le _ _ _

/-- Children that are not blocked and have notices are passed on as such, count or no count. -/
theorem any_of_notices (node : Prerequisite) (count : UInt32) (h : r.isBlocked = false)
    (hnotices : r.notices ≠ []) :
    (any node count r).isBlocked = false ∧ (any node count r).notices ≠ [] := by
  by_cases hmet : count ≤ r.count
  · exact ⟨isBlocked_any_of_le hmet, by rwa [notices_any_of_le hmet]⟩
  · rw [notices_eq_shortfalls h] at hnotices
    have hempty : r.shortfalls.isEmpty = false := by simpa using hnotices
    have hblocked : (any node count r).isBlocked = false := by
      rw [isBlocked_any_of_not_le hmet, hempty, h]
      rfl
    refine ⟨hblocked, ?_⟩
    rw [notices_eq_shortfalls hblocked, any, if_neg hmet]
    simpa [hempty, fold_eq_nil_iff] using hnotices

end combinations

/-! ## Improvement -/

/-- A report that counts no more as far as `bound`, is blocked no less and has notices only where the
other has some. -/
structure ImprovesTo (bound : Nat) (r r' : Report) : Prop where
  tally_le : min bound r.tally ≤ r'.tally
  unblocked : r.isBlocked = false → r'.isBlocked = false
  notices : r.notices ≠ [] → r'.notices ≠ []

theorem ImprovesTo.refl (bound : Nat) (r : Report) : ImprovesTo bound r r :=
  ⟨Nat.min_le_right _ _, id, id⟩

theorem ImprovesTo.passes (h : ImprovesTo bound r r') (hr : r.passes = true) : r'.passes = true :=
  passes_iff.mpr (h.unblocked (passes_iff.mp hr))

/-- A blocked report without credits and notices is improved by every report. -/
theorem improvesTo_of_isBlocked (htally : r.tally = 0) (hblocked : r.isBlocked = true)
    (hnotices : r.notices = []) (bound : Nat) (r' : Report) : ImprovesTo bound r r' where
  tally_le := by
    rw [htally, Nat.min_zero]
    exact Nat.zero_le _
  unblocked h := by
    rw [hblocked] at h
    cases h
  notices h := absurd hnotices h

theorem ImprovesTo.join_cons {rs rs' : List Report} (h : ImprovesTo bound r r')
    (hs : ImprovesTo bound (join rs) (join rs')) :
    ImprovesTo bound (join (r :: rs)) (join (r' :: rs')) where
  tally_le := by
    rw [tally_join_cons, tally_join_cons]
    have := h.tally_le
    have := hs.tally_le
    omega
  unblocked hunblocked := by
    rw [isBlocked_join_cons, Bool.or_eq_false_iff] at hunblocked ⊢
    exact ⟨h.unblocked hunblocked.1, hs.unblocked hunblocked.2⟩
  notices hnotices := by
    rw [notices_join_cons] at hnotices ⊢
    intro hnil
    obtain ⟨hnil, hnils⟩ := List.append_eq_nil_iff.mp hnil
    refine hnotices (List.append_eq_nil_iff.mpr ⟨?_, ?_⟩)
    · exact Decidable.byContradiction fun hne => h.notices hne hnil
    · exact Decidable.byContradiction fun hne => hs.notices hne hnils

/-- Nodes that are each judged better make a better report together. -/
theorem improvesTo_join_map {judge judge' : Prerequisite → Report} {nodes : List Prerequisite}
    (h : ∀ node ∈ nodes, ImprovesTo bound (judge node) (judge' node)) :
    ImprovesTo bound (join (nodes.map judge)) (join (nodes.map judge')) := by
  induction nodes with
  | nil => exact ImprovesTo.refl _ _
  | cons node rest ih =>
    obtain ⟨hnode, hrest⟩ := List.forall_mem_cons.mp h
    exact hnode.join_cons (ih hrest)

/-- Better children make a better report on a node that asks for all of them. -/
theorem ImprovesTo.all (h : ImprovesTo 0 r r') (bound : Nat) (node : Prerequisite) :
    ImprovesTo bound (Report.all node r) (Report.all node r') := by
  cases hr : r.isBlocked with
  | true =>
    refine improvesTo_of_isBlocked ?_ (by rw [isBlocked_all, hr]) (notices_all_of_isBlocked hr) _ _
    rw [all_of_isBlocked hr]
    rfl
  | false =>
    have hr' := h.unblocked hr
    refine ⟨?_, fun _ => by rw [isBlocked_all, hr'], ?_⟩
    · rw [all_of_passes hr, all_of_passes hr']
      exact Nat.min_le_right _ _
    · intro hnotices
      have hunblocked : ∀ s : Report, s.isBlocked = false →
          (Report.all node s).notices = s.notices := by
        intro s hs
        rw [notices_eq_shortfalls (by rw [isBlocked_all, hs]), all_of_passes hs]
      rw [hunblocked r hr] at hnotices
      rw [hunblocked r' hr']
      exact h.notices hnotices

/-- Better children make a better report on a node that asks for a number of them, if their count
fits. -/
theorem ImprovesTo.any {count : UInt32} (h : ImprovesTo count.toNat r r')
    (fits : r'.tally < UInt32.size) (bound : Nat) (node : Prerequisite) :
    ImprovesTo bound (Report.any node count r) (Report.any node count r') := by
  by_cases hmet : count ≤ r.count
  · have htally : count.toNat ≤ r.tally :=
      Nat.le_trans (UInt32.le_iff_toNat_le.mp hmet) r.toNat_count_le
    have htally' : count.toNat ≤ r'.tally := Nat.min_eq_left htally ▸ h.tally_le
    have hmet' : count ≤ r'.count := UInt32.le_iff_toNat_le.mpr (by rwa [toNat_count fits])
    refine ⟨?_, fun _ => isBlocked_any_of_le hmet', ?_⟩
    · rw [any_of_le hmet, any_of_le hmet']
      exact Nat.min_le_right _ _
    · rw [notices_any_of_le hmet, notices_any_of_le hmet']
      exact h.notices
  cases hblocked : (Report.any node count r).isBlocked with
  | true =>
    have hnotices := notices_eq_nil hblocked (length_shortfalls_any_le hmet)
    exact improvesTo_of_isBlocked (tally_any_of_not_le hmet) hblocked hnotices _ _
  | false =>
    -- the children have notices and nothing else, and so have the better ones
    rw [isBlocked_any_of_not_le hmet, Bool.or_eq_false_iff] at hblocked
    obtain ⟨hempty, hunblocked⟩ := hblocked
    have hnotices : r.notices ≠ [] := by
      rw [notices_eq_shortfalls hunblocked]
      simpa using hempty
    obtain ⟨hunblocked', hnotices'⟩ :=
      any_of_notices node count (h.unblocked hunblocked) (h.notices hnotices)
    refine ⟨?_, fun _ => hunblocked', fun _ => hnotices'⟩
    rw [tally_any_of_not_le hmet, Nat.min_zero]
    exact Nat.zero_le _

/-! ## Improvement of leaves -/

theorem improvesTo_leaf_blocking {node : Prerequisite} {text : String} {answer : Answer}
    (h : answer.outcome = .entry (.blocking text)) (bound : Nat) (r' : Report) :
    ImprovesTo bound (leaf node answer) r' := by
  have hleaf : leaf node answer =
      { shortfalls := [.blocking text], diagnostics := answer.diagnostics } := by
    rw [leaf, h]
  rw [hleaf]
  exact improvesTo_of_isBlocked rfl rfl rfl bound r'

theorem improvesTo_leaf_met {node : Prerequisite} {answer answer' : Answer} {n m : UInt32}
    (h : answer.outcome = .met n) (h' : answer'.outcome = .met m)
    (hle : min bound n.toNat ≤ m.toNat) :
    ImprovesTo bound (leaf node answer) (leaf node answer') := by
  have hleaf : ∀ {answer : Answer} {n : UInt32}, answer.outcome = .met n →
      leaf node answer = { credits := [⟨node, n⟩], diagnostics := answer.diagnostics } := by
    intro answer n h
    rw [leaf, h]
  rw [hleaf h, hleaf h']
  exact ⟨by simpa [tally] using hle, fun _ => rfl, id⟩

/-- A leaf that stays met where it was, and counts one. -/
theorem improvesTo_leaf_ofBool {node : Prerequisite} {answer answer' : Answer} {text : String}
    {b b' : Bool} (h : answer.outcome = .ofBool text b) (h' : answer'.outcome = .ofBool text b')
    (more : b = true → b' = true) :
    ImprovesTo bound (leaf node answer) (leaf node answer') := by
  cases b with
  | false => exact improvesTo_leaf_blocking h _ _
  | true =>
    rw [more rfl] at h'
    exact improvesTo_leaf_met h h' (Nat.min_le_right _ _)

end Report

end CharacterSheet
