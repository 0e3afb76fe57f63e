import CharacterSheet.Compendium.Loop
import CharacterSheet.Proofs.Compendium.Links
import Mathlib.Data.List.Chain
import Mathlib.Data.List.Nodup
import Mathlib.Logic.Relation

/-!
# The search for loops is right

Two halves. A compendium that passes has no loop: the search only ends well on an entry from which no
way goes on forever (`Settled`), and it visits every entry. A loop that is reported is one: the path of
the search is a way along links that never repeats an entry (`Trail`), so the part of it from the
entry that came up again is a loop without anything that merely leads there.
-/

namespace CharacterSheet

/-! ## Folds that may stop early -/

section foldlM

variable {α β ε : Type} {f : β → α → Except ε β} {as : List α} {b : β}

/-- A fold that ends well keeps what each step keeps, and has what each step gives for its element. -/
theorem forall_mem_of_foldlM_eq_ok {P : β → Prop} {Q : α → Prop} {b' : β}
    (step : ∀ a ∈ as, ∀ b b', P b → f b a = .ok b' → P b' ∧ Q a)
    (hb : P b) (h : as.foldlM f b = .ok b') : P b' ∧ ∀ a ∈ as, Q a := by
  induction as generalizing b with
  | nil =>
    obtain rfl : b = b' := by simpa [pure, Except.pure] using h
    exact ⟨hb, by simp⟩
  | cons a as ih =>
    rw [List.foldlM_cons] at h
    cases hf : f b a with
    | error e => rw [hf] at h; cases h
    | ok b₁ =>
      rw [hf] at h
      obtain ⟨hb₁, ha⟩ := step a List.mem_cons_self b b₁ hb hf
      obtain ⟨hb', has⟩ := ih (fun a ha => step a (List.mem_cons_of_mem _ ha)) hb₁ h
      exact ⟨hb', List.forall_mem_cons.mpr ⟨ha, has⟩⟩

/-- A fold that fails does so at one of the elements. -/
theorem exists_mem_of_foldlM_eq_error {e : ε} (h : as.foldlM f b = .error e) :
    ∃ a ∈ as, ∃ b, f b a = .error e := by
  induction as generalizing b with
  | nil => cases h
  | cons a as ih =>
    rw [List.foldlM_cons] at h
    cases hf : f b a with
    | error e' =>
      rw [hf] at h
      obtain rfl : e' = e := by simpa [bind, Except.bind] using h
      exact ⟨a, List.mem_cons_self, b, hf⟩
    | ok b₁ =>
      rw [hf] at h
      obtain ⟨a', ha', hfa'⟩ := ih h
      exact ⟨a', List.mem_cons_of_mem _ ha', hfa'⟩

end foldlM

namespace Compendium

variable {c : Compendium} {path seen seen' : List Entry} {entry : Entry}

/-! ## Ways along links -/

/-- Different entries of which each requires the next, and the last the first again. -/
structure IsLoop (c : Compendium) (first : Entry) (rest : List Entry) : Prop where
  nodup : (first :: rest).Nodup
  mem_entries : ∀ e ∈ first :: rest, e ∈ c.entries
  closed : (first :: rest ++ [first]).IsChain c.Requires

/-- Who goes along a loop comes back to where it starts. -/
theorem IsLoop.transGen {rest : List Entry} (h : c.IsLoop entry rest) :
    Relation.TransGen c.Requires entry entry := by
  have chain := h.closed
  cases rest with
  | nil => exact Relation.TransGen.single (List.isChain_pair.mp chain)
  | cons next rest =>
    obtain ⟨hnext, chain⟩ := List.isChain_cons_cons.mp chain
    have back : Relation.ReflTransGen c.Requires next entry :=
      List.relationReflTransGen_of_exists_isChain_cons _ chain (by simp)
    exact Relation.TransGen.head' hnext back

/-- What the search keeps to: a way to `entry` along links that holds no entry twice. -/
structure Trail (c : Compendium) (path : List Entry) (entry : Entry) : Prop where
  nodup : path.Nodup
  mem_entries : ∀ e ∈ path ++ [entry], e ∈ c.entries
  chain : (path ++ [entry]).IsChain c.Requires

theorem Trail.start (h : entry ∈ c.entries) : c.Trail [] entry where
  nodup := List.nodup_nil
  mem_entries := by simpa using h
  chain := List.isChain_singleton entry

/-- The trail goes on from an entry that is not on it yet. -/
theorem Trail.step {next : Entry} (h : c.Trail path entry) (hnew : entry ∉ path)
    (hnext : next ∈ c.requirements entry) : c.Trail (path ++ [entry]) next where
  nodup := by
    refine List.nodup_append.mpr ⟨h.nodup, by simp, fun a ha b hb => ?_⟩
    obtain rfl := List.mem_singleton.mp hb
    exact fun hab => hnew (hab ▸ ha)
  mem_entries e he := by
    rcases List.mem_append.mp he with he | he
    · exact h.mem_entries e he
    · obtain rfl := List.mem_singleton.mp he
      exact mem_entries_of_mem_requirements hnext
  chain := by
    rw [List.append_assoc]
    exact List.isChain_split.mpr ⟨h.chain, List.isChain_pair.mpr (mem_requirements.mp hnext)⟩

/-- A trail never holds more entries than there are. -/
theorem Trail.length_le (h : c.Trail path entry) : path.length ≤ c.entries.length :=
  List.Nodup.length_le_of_subset h.nodup fun e he => h.mem_entries e (List.mem_append_left _ he)

/-- A trail that meets itself ends in a loop, which starts where it meets itself. -/
theorem Trail.exists_isLoop (h : c.Trail path entry) (hmem : entry ∈ path) :
    ∃ rest, c.IsLoop entry rest ∧ path.dropWhile (· != entry) = entry :: rest := by
  obtain ⟨before, rest, rfl⟩ := List.append_of_mem hmem
  have hbefore : ∀ e ∈ before, (e != entry) = true := by
    intro e he
    obtain ⟨-, -, disjoint⟩ := List.nodup_append.mp h.nodup
    exact bne_iff_ne.mpr (disjoint e he entry List.mem_cons_self)
  refine ⟨rest, ⟨?_, ?_, ?_⟩, ?_⟩
  · exact h.nodup.sublist (List.sublist_append_right before _)
  · intro e he
    exact h.mem_entries e (List.mem_append_left _ (List.mem_append_right _ he))
  · have chain := h.chain
    rw [List.append_assoc] at chain
    exact chain.right_of_append
  · rw [List.dropWhile_append_of_pos hbefore]
    simp

/-! ## A search that ends well -/

/-- No way along links goes on forever from the entry. -/
def Settled (c : Compendium) (entry : Entry) : Prop :=
  Acc (fun b a => c.Requires a b) entry

theorem settled_of_forall_mem_requirements (h : ∀ e ∈ c.requirements entry, c.Settled e) :
    c.Settled entry :=
  Acc.intro entry fun e he => h e (mem_requirements.mpr he)

/-- From a settled entry there is no way back to it. -/
theorem Settled.not_transGen (h : c.Settled entry) :
    ¬ Relation.TransGen c.Requires entry entry := by
  intro hback
  have hacc : Acc (Relation.TransGen fun b a => c.Requires a b) entry := Acc.transGen h
  induction hacc with
  | intro e _ ih => exact ih e (Relation.transGen_swap.mpr hback) h hback

/-- The search from an entry settles it, and all that it has seen but for the entries on its path. -/
theorem settled_of_visit {fuel : Nat} (trail : c.Trail path entry)
    (enough : c.entries.length < fuel + path.length)
    (known : ∀ e ∈ seen, e ∈ path ∨ c.Settled e)
    (h : c.visit fuel path seen entry = .ok seen') :
    (∀ e ∈ seen', e ∈ path ∨ c.Settled e) ∧ c.Settled entry := by
  induction fuel generalizing path seen seen' entry with
  | zero =>
    -- without fuel the trail would hold more entries than there are
    have := trail.length_le
    omega
  | succ fuel ih =>
    by_cases hpath : entry ∈ path
    · rw [visit_of_mem_path c fuel seen hpath] at h
      cases h
    by_cases hseen : entry ∈ seen
    · rw [visit_of_mem_seen c fuel hpath hseen] at h
      obtain rfl : seen = seen' := Except.ok.inj h
      exact ⟨known, (known entry hseen).resolve_left hpath⟩
    rw [visit_of_new c fuel hpath hseen] at h
    -- while the requirements are searched, the entry itself is on the path
    have known' : ∀ e ∈ entry :: seen, e ∈ path ++ [entry] ∨ c.Settled e := by
      intro e he
      rcases List.mem_cons.mp he with rfl | he
      · exact Or.inl (by simp)
      · exact (known e he).imp_left (List.mem_append_left _)
    obtain ⟨hseen', hreqs⟩ := forall_mem_of_foldlM_eq_ok
      (P := fun seen => ∀ e ∈ seen, e ∈ path ++ [entry] ∨ c.Settled e) (Q := c.Settled)
      (fun next hnext seen₁ seen₂ hseen₁ hvisit =>
        ih (trail.step hpath (List.mem_reverse.mp hnext))
          (by rw [List.length_append, List.length_singleton]; omega) hseen₁ hvisit)
      known' h
    have settled : c.Settled entry :=
      settled_of_forall_mem_requirements fun e he => hreqs e (List.mem_reverse.mpr he)
    refine ⟨fun e he => ?_, settled⟩
    -- behind the search the entry is off the path again, but now it is settled
    rcases hseen' e he with he | he
    · rcases List.mem_append.mp he with he | he
      · exact Or.inl he
      · obtain rfl := List.mem_singleton.mp he
        exact Or.inr settled
    · exact Or.inr he

/-- A search that ends well settles every entry. -/
theorem settled_of_search (h : c.search = .ok seen) : ∀ e ∈ c.entries, c.Settled e := by
  obtain ⟨-, settled⟩ := forall_mem_of_foldlM_eq_ok
    (P := fun seen => ∀ e ∈ seen, e ∈ [] ∨ c.Settled e) (Q := c.Settled)
    (fun e he seen₁ seen₂ hseen₁ hvisit =>
      settled_of_visit (Trail.start he) (by simp) hseen₁ hvisit)
    (by simp) h
  exact settled

/-! ## A search that fails -/

/-- What the search reports from an entry on is a loop, closed by its first entry. -/
theorem exists_isLoop_of_visit {fuel : Nat} {loop : List Entry} (trail : c.Trail path entry)
    (h : c.visit fuel path seen entry = .error loop) :
    ∃ first rest, c.IsLoop first rest ∧ loop = first :: rest ++ [first] := by
  induction fuel generalizing path seen entry with
  | zero => cases h
  | succ fuel ih =>
    by_cases hpath : entry ∈ path
    · rw [visit_of_mem_path c fuel seen hpath] at h
      obtain ⟨rest, hloop, hrest⟩ := trail.exists_isLoop hpath
      obtain rfl := Except.error.inj h
      exact ⟨entry, rest, hloop, by rw [hrest]⟩
    by_cases hseen : entry ∈ seen
    · rw [visit_of_mem_seen c fuel hpath hseen] at h
      cases h
    rw [visit_of_new c fuel hpath hseen] at h
    obtain ⟨next, hnext, seen₁, hvisit⟩ := exists_mem_of_foldlM_eq_error h
    exact ih (trail.step hpath (List.mem_reverse.mp hnext)) hvisit

theorem exists_isLoop_of_search {loop : List Entry} (h : c.search = .error loop) :
    ∃ first rest, c.IsLoop first rest ∧ loop = first :: rest ++ [first] := by
  obtain ⟨e, he, seen, hvisit⟩ := exists_mem_of_foldlM_eq_error h
  exact exists_isLoop_of_visit (Trail.start he) hvisit

/-! ## The check -/

/-- A compendium that passes has no way from an entry back to it. -/
theorem not_transGen_of_checkLoops (h : c.checkLoops = .ok ()) (entry : Entry) :
    ¬ Relation.TransGen c.Requires entry entry := by
  unfold checkLoops at h
  split at h
  · next seen hsearch =>
    intro hback
    -- the way starts with a link, so it starts at an entry
    obtain ⟨next, hnext, -⟩ := Relation.TransGen.head'_iff.mp hback
    exact (settled_of_search hsearch entry hnext.mem_entries.1).not_transGen hback
  · cases h

/-- A compendium that does not pass has a loop, and the fault names it. -/
theorem exists_isLoop_of_checkLoops {fault : ContentFault} (h : c.checkLoops = .error fault) :
    ∃ first rest, c.IsLoop first rest ∧
      fault = .cycle ((first :: rest ++ [first]).map (·.name)) := by
  unfold checkLoops at h
  split at h
  · cases h
  · next loop hsearch =>
    obtain ⟨first, rest, hloop, rfl⟩ := exists_isLoop_of_search hsearch
    exact ⟨first, rest, hloop, (Except.error.inj h).symm⟩

/-- The check passes exactly those compendia in which no way along links leads back to where it
started. The fault of any other names a loop and nothing else: its entries differ, each requires the
next and the last the first, which stands at the end once more. -/
theorem checkLoops_finds_exactly_loops (c : Compendium) :
    (c.checkLoops = .ok () ↔ ∀ entry, ¬ Relation.TransGen c.Requires entry entry) ∧
      ∀ fault, c.checkLoops = .error fault → ∃ first rest, c.IsLoop first rest ∧
        fault = .cycle ((first :: rest ++ [first]).map (·.name)) := by
  refine ⟨⟨not_transGen_of_checkLoops, fun acyclic => ?_⟩, fun _ => exists_isLoop_of_checkLoops⟩
  cases h : c.checkLoops with
  | ok => rfl
  | error fault =>
    obtain ⟨first, rest, hloop, -⟩ := exists_isLoop_of_checkLoops h
    exact absurd hloop.transGen (acyclic first)

end Compendium

end CharacterSheet
