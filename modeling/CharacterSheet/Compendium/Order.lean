import CharacterSheet.Compendium.Loop

/-!
# Requirements first

An order of the entries in which everything stands behind what it requires. It is the order in which a
depth-first walk is done with the entries. The walk has a stack and only looks at its top. An entry
that comes there for the first time is met: it stays, and those of its requirements that are not met
yet go on top of it, the first mentioned of them last. An entry that was met before goes, and the walk
is done with it, if it was not before. So an entry may lie on the stack more than once, and its
topmost copy is the one that counts.

Only a compendium without loops has such an order, and the loops are looked for beforehand. The walk
does not rely on that. It gives up at an entry that requires itself, and what it ends with is gone
through once more from behind, for an entry that requires one behind it.
-/

namespace CharacterSheet

/-- How far a walk through a compendium has come. -/
structure Walk (c : Compendium) where
  /-- what is still to be looked at, the next entry first -/
  stack : List Entry := []
  /-- the entries that were met -/
  met : List Entry := []
  /-- the entries that the walk is done with, in that order -/
  done : List Entry := []
  stack_subset : stack ⊆ c.entries := by simp

namespace Walk

variable {c : Compendium}

/-- Puts an entry on top of the stack. -/
def push (walk : Walk c) (entry : Entry) (h : entry ∈ c.entries) : Walk c where
  stack := entry :: walk.stack
  met := walk.met
  done := walk.done
  stack_subset := List.cons_subset.mpr ⟨h, walk.stack_subset⟩

/-- Meets the entry on top of the stack, and puts those of its requirements on it that are new. -/
def meet (walk : Walk c) (entry : Entry) : Walk c where
  stack := (c.requirements entry).filter (· ∉ entry :: walk.met) ++ walk.stack
  met := entry :: walk.met
  done := walk.done
  stack_subset := List.append_subset.mpr
    ⟨fun _ h => Compendium.mem_entries_of_mem_requirements (List.mem_filter.mp h).1,
      walk.stack_subset⟩

/-- Is done with the entry on top of the stack, and takes it away. -/
def leave (walk : Walk c) (entry : Entry) : Walk c where
  stack := walk.stack.tail
  met := walk.met
  done := appendNew entry walk.done
  stack_subset := fun _ h => walk.stack_subset (List.mem_of_mem_tail h)

/-- The entries that are still to be met. -/
def unmet (walk : Walk c) : List Entry :=
  c.entries.filter (· ∉ walk.met)

/-- To meet an entry leaves fewer to be met. -/
theorem length_unmet_meet_lt (walk : Walk c) {entry : Entry} (hentry : entry ∈ c.entries)
    (hnew : entry ∉ walk.met) : (walk.meet entry).unmet.length < walk.unmet.length := by
  have hunmet : (walk.meet entry).unmet = walk.unmet.filter (· ≠ entry) := by
    simp [unmet, meet, List.filter_filter]
  rw [hunmet, List.length_filter_lt_length_iff_exists]
  exact ⟨entry, by simp [unmet, hentry, hnew], by simp⟩

/-- Goes on until the stack is empty, or gives up at an entry that requires itself. -/
def run (walk : Walk c) : Except Entry (Walk c) :=
  match _hstack : walk.stack with
  | [] => .ok walk
  | entry :: _ =>
    if _hmet : entry ∈ walk.met then run (walk.leave entry)
    else if entry ∈ c.requirements entry then .error entry
    else run (walk.meet entry)
termination_by (walk.unmet.length, walk.stack.length)
decreasing_by
  · exact Prod.Lex.right _ (by simp [leave, _hstack])
  · refine Prod.Lex.left _ _ (walk.length_unmet_meet_lt (walk.stack_subset ?_) _hmet)
    rw [_hstack]
    exact List.mem_cons_self

/-- Goes on from one more entry, unless it was met before. -/
def explore (walk : Walk c) (entry : {entry // entry ∈ c.entries}) : Except Entry (Walk c) :=
  if entry.1 ∈ walk.met then .ok walk else (walk.push entry.1 entry.2).run

/-! ## Equations -/

theorem run_of_nil {walk : Walk c} (h : walk.stack = []) : walk.run = .ok walk := by
  rw [run]
  split
  · rfl
  · next heq => rw [h] at heq; cases heq

theorem run_of_met {walk : Walk c} {entry : Entry} {rest : List Entry}
    (h : walk.stack = entry :: rest) (hmet : entry ∈ walk.met) :
    walk.run = (walk.leave entry).run := by
  rw [run]
  split
  · next heq => rw [h] at heq; cases heq
  · next heq =>
    rw [h] at heq
    cases heq
    rw [dif_pos hmet]

theorem run_of_new {walk : Walk c} {entry : Entry} {rest : List Entry}
    (h : walk.stack = entry :: rest) (hnew : entry ∉ walk.met)
    (hself : entry ∉ c.requirements entry) : walk.run = (walk.meet entry).run := by
  rw [run]
  split
  · next heq => rw [h] at heq; cases heq
  · next heq =>
    rw [h] at heq
    cases heq
    rw [dif_neg hnew, if_neg hself]

end Walk

namespace Compendium

/-- The walk through all entries, as they were first mentioned. -/
def walkAll (c : Compendium) : Except Entry (Walk c) :=
  c.entries.attach.foldlM Walk.explore {}

/-- Goes through an order from behind, for an entry that requires one behind it; `passed` is what was
gone through. -/
def misplaced? (c : Compendium) : (passed before : List Entry) → Option Entry
  | _, [] => none
  | passed, entry :: before =>
    match c.links.find? fun link => link.2 = entry ∧ link.1 ∉ entry :: passed with
    | some link => some link.1
    | none => misplaced? c (entry :: passed) before

/-- The entries with requirements first, or an entry at which it shows that there is no such order. -/
def sort (c : Compendium) : Except Entry (List Entry) :=
  match c.walkAll with
  | .error entry => .error entry
  | .ok walk =>
    match c.misplaced? [] walk.done.reverse with
    | some entry => .error entry
    | none => .ok walk.done

/-- The entries with requirements first, or the loop that stands in the way. -/
def order (c : Compendium) : Except ContentFault (List Entry) := do
  c.checkLoops
  match c.sort with
  | .ok entries => return entries
  | .error entry => throw (.cycle [entry.name])

end Compendium

end CharacterSheet
