import CharacterSheet.Proofs.Compendium.Loops
import CharacterSheet.Proofs.Prerequisite.Conditions
import Mathlib.Data.List.Induction

/-!
# The compendium of a set of items

Its entries are those of the items as they come up first, and an entry requires what the prerequisites
of one of its items name, as far as that is an entry (`ofItems_entries_and_links`). Items that have
kind and name in common are one entry, which requires what any of them asks for.

Both say nothing of the order of the items but for the order of the entries. So items in another order
make the same compendium up to that, and it has a loop if the first one has.
-/

namespace CharacterSheet

/-! ## Lists without repeats -/

section appendNew

variable {α : Type} [DecidableEq α]

theorem appendNew_eraseDups (a : α) (as : List α) :
    appendNew a as.eraseDups = (as ++ [a]).eraseDups := by
  rw [appendNew, List.eraseDups_append]
  by_cases h : a ∈ as
  · simp [h, List.removeAll]
  · simp [h, List.removeAll, List.eraseDups_cons]

/-- To put elements behind all others unless they are there is to keep the first of each. -/
theorem foldl_appendNew (as : List α) :
    as.foldl (fun kept a => appendNew a kept) [] = as.eraseDups := by
  induction as using List.reverseRecOn with
  | nil => rfl
  | append_singleton as a ih =>
    rw [List.foldl_append, ih]
    exact appendNew_eraseDups a as

end appendNew

namespace Compendium

variable {c c' : Compendium} {items items' : List Item} {a b : Entry}

/-! ## Entries and links -/

theorem entries_foldl_add (items : List Item) (c : Compendium) :
    (items.foldl (fun c item => c.add (.ofItem item)) c).entries =
      (items.map Entry.ofItem).foldl (fun kept entry => appendNew entry kept) c.entries := by
  induction items generalizing c with
  | nil => rfl
  | cons item rest ih => exact ih (c.add (.ofItem item))

/-- The entries are those of the items, as they come up first. -/
theorem entries_ofItems (items : List Item) :
    (ofItems items).entries = (items.map Entry.ofItem).eraseDups := by
  obtain ⟨hmentioned, -⟩ := foldl_add_spec items empty
  obtain ⟨hlinked, -⟩ := foldl_linkKnown_spec items
    (items.foldl (fun c item => c.add (.ofItem item)) empty)
    fun item hitem => (hmentioned _).mpr (Or.inr ⟨item, hitem, rfl⟩)
  rw [ofItems, hlinked, entries_foldl_add]
  exact foldl_appendNew _

theorem mem_entries_ofItems_iff : a ∈ (ofItems items).entries ↔ a ∈ items.map Entry.ofItem := by
  rw [mem_entries_ofItems, List.mem_map]

theorem requires_ofItems_iff : (ofItems items).Requires a b ↔
    a ∈ items.map Entry.ofItem ∧ b ∈ items.map Entry.ofItem ∧
      ∃ item ∈ items, Entry.ofItem item = a ∧ ∃ text condition,
        (Prerequisite.leaf text condition).IsWithin item.prerequisites ∧ condition.Names b := by
  rw [requires_ofItems, mem_entries_ofItems_iff]
  simp only [Prerequisite.mem_referencesList_iff]
  constructor
  · rintro ⟨hb, item, hitem, rfl, hnames⟩
    exact ⟨List.mem_map_of_mem hitem, hb, item, hitem, rfl, hnames⟩
  · rintro ⟨-, hb, item, hitem, ha, hnames⟩
    exact ⟨hb, item, hitem, ha, hnames⟩

/-! ## Another order -/

/-- Where there is no link that was not there before, there is no loop that was not. -/
theorem checkLoops_eq_ok_of_requires (hrequires : ∀ a b, c'.Requires a b → c.Requires a b)
    (h : c.checkLoops = .ok ()) : c'.checkLoops = .ok () := by
  cases hcheck : c'.checkLoops with
  | ok => rfl
  | error fault =>
    obtain ⟨first, rest, hloop, -⟩ := exists_isLoop_of_checkLoops hcheck
    exact absurd (Relation.TransGen.mono hrequires _ _ hloop.transGen) (not_transGen_of_checkLoops h first)

section perm

variable (h : items'.Perm items)
include h

theorem mem_entries_ofItems_perm :
    a ∈ (ofItems items').entries ↔ a ∈ (ofItems items).entries := by
  rw [mem_entries_ofItems_iff, mem_entries_ofItems_iff, (h.map Entry.ofItem).mem_iff]

theorem requires_ofItems_perm : (ofItems items').Requires a b ↔ (ofItems items).Requires a b := by
  rw [requires_ofItems, requires_ofItems, mem_entries_ofItems_perm h]
  simp only [h.mem_iff]

end perm

/-- The compendium of a set of items has their kinds and names as its entries, each of them once and
where it comes up first, and a link wherever an item with the first of two entries names the second one
at any depth. So whatever the order of the items, the entries and the links are the same, and so is
whether there is a loop. -/
theorem ofItems_entries_and_links (items : List Item) :
    (ofItems items).entries = (items.map Entry.ofItem).eraseDups ∧
      (∀ a b, (ofItems items).Requires a b ↔
        a ∈ items.map Entry.ofItem ∧ b ∈ items.map Entry.ofItem ∧
          ∃ item ∈ items, Entry.ofItem item = a ∧ ∃ text condition,
            (Prerequisite.leaf text condition).IsWithin item.prerequisites ∧ condition.Names b) ∧
      ∀ items' : List Item, items'.Perm items →
        (∀ a, a ∈ (ofItems items').entries ↔ a ∈ (ofItems items).entries) ∧
          (∀ a b, (ofItems items').Requires a b ↔ (ofItems items).Requires a b) ∧
          ((ofItems items').checkLoops = .ok () ↔ (ofItems items).checkLoops = .ok ()) := by
  refine ⟨entries_ofItems items, fun _ _ => requires_ofItems_iff, fun items' h => ?_⟩
  refine ⟨fun _ => mem_entries_ofItems_perm h, fun _ _ => requires_ofItems_perm h, ?_⟩
  constructor
  · exact checkLoops_eq_ok_of_requires fun _ _ => (requires_ofItems_perm h).mpr
  · exact checkLoops_eq_ok_of_requires fun _ _ => (requires_ofItems_perm h).mp

end Compendium

end CharacterSheet
