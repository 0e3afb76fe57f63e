import CharacterSheet.Compendium.Basic

/-!
# Loops in a compendium

Items that require each other in a loop can never be had. The search for a loop goes depth first from
entry to entry, and tries the requirements that were mentioned last before the others. It carries the
entries on the way from where it started (`path`) and those that it was at before (`seen`). An entry
that comes up again on its own path closes a loop, which is reported from there on, so that nothing
that merely leads to the loop is part of it.

A path never holds an entry twice, so one step more than there are entries is fuel enough.
-/

namespace CharacterSheet.Compendium

/-- Searches from an entry on; gives a loop, or what was seen if there is none on the way. -/
def visit (c : Compendium) : (fuel : Nat) → (path seen : List Entry) → Entry →
    Except (List Entry) (List Entry)
  | 0, _, seen, _ => .ok seen
  | fuel + 1, path, seen, entry =>
    if entry ∈ path then .error (path.dropWhile (· != entry) ++ [entry])
    else if entry ∈ seen then .ok seen
    else
      (c.requirements entry).reverse.foldlM (visit c fuel (path ++ [entry])) (entry :: seen)

/-- Searches from every entry on, in order. -/
def search (c : Compendium) : Except (List Entry) (List Entry) :=
  c.entries.foldlM (c.visit (c.entries.length + 1) []) []

/-- Refuses a compendium with a loop, and names the first loop that the search meets. -/
def checkLoops (c : Compendium) : Except ContentFault Unit :=
  match c.search with
  | .ok _ => .ok ()
  | .error loop => .error (.cycle (loop.map (·.name)))

/-! ## Equations -/

theorem visit_of_mem_path (c : Compendium) (fuel : Nat) {path : List Entry} (seen : List Entry)
    {entry : Entry} (h : entry ∈ path) :
    c.visit (fuel + 1) path seen entry = .error (path.dropWhile (· != entry) ++ [entry]) := by
  rw [visit, if_pos h]

theorem visit_of_mem_seen (c : Compendium) (fuel : Nat) {path seen : List Entry} {entry : Entry}
    (hp : entry ∉ path) (h : entry ∈ seen) : c.visit (fuel + 1) path seen entry = .ok seen := by
  rw [visit, if_neg hp, if_pos h]

theorem visit_of_new (c : Compendium) (fuel : Nat) {path seen : List Entry} {entry : Entry}
    (hp : entry ∉ path) (h : entry ∉ seen) :
    c.visit (fuel + 1) path seen entry =
      (c.requirements entry).reverse.foldlM (c.visit fuel (path ++ [entry])) (entry :: seen) := by
  rw [visit, if_neg hp, if_neg h]

end CharacterSheet.Compendium
