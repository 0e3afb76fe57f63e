import CharacterSheet.Item

/-!
# Compendia

A compendium is what a set of items requires of each other: its entries are the items, by kind and
name, and a link leads from an entry to one that its prerequisites name. Entries and links stand in
the order in which they were first mentioned, each of them once, and links only join entries of the
compendium. All of this is part of the type. How a compendium is kept while it is built is left to the
register (`Register`), which shows one at any time.
-/

namespace CharacterSheet

/-- An item of the compendium. Items of the same kind and name are one entry. -/
structure Entry where
  kind : ItemKind
  name : String
  deriving DecidableEq

namespace Entry

/-- The entry of an item. -/
def ofItem (item : Item) : Entry := ⟨item.kind, item.name⟩

/-- The entry as a file has it. -/
def toJson (entry : Entry) : Json :=
  .object [("type", .string entry.kind.key), ("name", .string entry.name)]

end Entry

/-! ## Lists without repeats -/

/-- Puts an element behind all others, unless it is there already. -/
def appendNew {α : Type} [DecidableEq α] (a : α) (as : List α) : List α :=
  if a ∈ as then as else as ++ [a]

section appendNew

variable {α : Type} [DecidableEq α] {a b : α} {as : List α}

theorem mem_appendNew : b ∈ appendNew a as ↔ b = a ∨ b ∈ as := by
  unfold appendNew
  split
  · next h => exact ⟨Or.inr, fun hb => hb.elim (· ▸ h) id⟩
  · simp [or_comm]

theorem nodup_appendNew (h : as.Nodup) : (appendNew a as).Nodup := by
  unfold appendNew
  split
  · exact h
  · next ha =>
    refine List.nodup_append.mpr ⟨h, by simp, fun x hx y hy => ?_⟩
    obtain rfl := List.mem_singleton.mp hy
    exact fun hxa => ha (hxa ▸ hx)

end appendNew

/-! ## Compendia -/

/-- Entries and the links between them. -/
structure Compendium where
  entries : List Entry
  /-- from an entry to one that it requires -/
  links : List (Entry × Entry)
  nodup_entries : entries.Nodup
  nodup_links : links.Nodup
  mem_of_link : ∀ link ∈ links, link.1 ∈ entries ∧ link.2 ∈ entries

namespace Compendium

/-- The compendium without entries. -/
def empty : Compendium where
  entries := []
  links := []
  nodup_entries := List.nodup_nil
  nodup_links := List.nodup_nil
  mem_of_link := by simp

/-- Mentions an entry. -/
def add (c : Compendium) (entry : Entry) : Compendium where
  entries := appendNew entry c.entries
  links := c.links
  nodup_entries := nodup_appendNew c.nodup_entries
  nodup_links := c.nodup_links
  mem_of_link link h :=
    ⟨mem_appendNew.mpr (.inr (c.mem_of_link link h).1),
      mem_appendNew.mpr (.inr (c.mem_of_link link h).2)⟩

/-- Mentions two entries, of which the first requires the second. -/
def link (c : Compendium) (dependent requirement : Entry) : Compendium where
  entries := appendNew requirement (appendNew dependent c.entries)
  links := appendNew (dependent, requirement) c.links
  nodup_entries := nodup_appendNew (nodup_appendNew c.nodup_entries)
  nodup_links := nodup_appendNew c.nodup_links
  mem_of_link link h := by
    rcases mem_appendNew.mp h with rfl | h
    · simp [mem_appendNew]
    · have := c.mem_of_link link h
      simp [mem_appendNew, this]

/-- What an entry requires, in the order in which that was first mentioned. -/
def requirements (c : Compendium) (entry : Entry) : List Entry :=
  (c.links.filter (·.1 == entry)).map (·.2)

/-- An entry requires what it has a link to. -/
theorem mem_requirements {c : Compendium} {a b : Entry} :
    b ∈ c.requirements a ↔ (a, b) ∈ c.links := by
  simp [requirements]

/-- What an entry requires is an entry itself. -/
theorem mem_entries_of_mem_requirements {c : Compendium} {a b : Entry}
    (h : b ∈ c.requirements a) : b ∈ c.entries :=
  (c.mem_of_link _ (mem_requirements.mp h)).2

end Compendium

end CharacterSheet
