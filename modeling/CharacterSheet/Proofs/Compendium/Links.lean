import CharacterSheet.Compendium.References

/-!
# The links of a compendium

What each way of building a compendium does to its entries and links, and from that what the
compendium of a set of items holds: their entries, and a link wherever the prerequisites of an item
name an entry.
-/

namespace CharacterSheet.Compendium

variable {c : Compendium} {a b entry : Entry}

/-- The first entry has a link to the second. -/
def Requires (c : Compendium) (a b : Entry) : Prop := (a, b) ∈ c.links

theorem Requires.mem_entries (h : c.Requires a b) : a ∈ c.entries ∧ b ∈ c.entries :=
  c.mem_of_link (a, b) h

/-! ## Adding and linking -/

theorem mem_entries_add : a ∈ (c.add entry).entries ↔ a = entry ∨ a ∈ c.entries :=
  mem_appendNew

/-- A link between known entries adds no entry. -/
theorem entries_link (ha : a ∈ c.entries) (hb : b ∈ c.entries) :
    (c.link a b).entries = c.entries := by
  simp [link, appendNew, ha, hb]

theorem requires_link {x y : Entry} :
    (c.link x y).Requires a b ↔ (a = x ∧ b = y) ∨ c.Requires a b := by
  rw [Requires, link, mem_appendNew, Prod.mk.injEq, Requires]

/-! ## Linking what is known -/

/-- The known ones of some references are linked to, and nothing else changes. -/
theorem linkKnown_spec (references : List Entry) (hentry : entry ∈ c.entries) :
    (c.linkKnown entry references).entries = c.entries ∧
      ∀ a b, (c.linkKnown entry references).Requires a b ↔
        c.Requires a b ∨ (a = entry ∧ b ∈ references ∧ b ∈ c.entries) := by
  induction references generalizing c with
  | nil => exact ⟨rfl, fun a b => by simp [linkKnown]⟩
  | cons reference rest ih =>
    by_cases hknown : reference ∈ c.entries
    · have hentries : (c.link entry reference).entries = c.entries := entries_link hentry hknown
      obtain ⟨ihentries, ihlinks⟩ := ih (c := c.link entry reference) (hentries ▸ hentry)
      have heq : c.linkKnown entry (reference :: rest) =
          (c.link entry reference).linkKnown entry rest := by
        simp [linkKnown, hknown]
      rw [heq]
      refine ⟨ihentries.trans hentries, fun a b => ?_⟩
      rw [ihlinks a b, requires_link, hentries, List.mem_cons]
      constructor
      · rintro ((⟨rfl, rfl⟩ | h) | ⟨rfl, hb, hbc⟩)
        · exact Or.inr ⟨rfl, Or.inl rfl, hknown⟩
        · exact Or.inl h
        · exact Or.inr ⟨rfl, Or.inr hb, hbc⟩
      · rintro (h | ⟨rfl, rfl | hb, hbc⟩)
        · exact Or.inl (Or.inr h)
        · exact Or.inl (Or.inl ⟨rfl, rfl⟩)
        · exact Or.inr ⟨rfl, hb, hbc⟩
    · have heq : c.linkKnown entry (reference :: rest) = c.linkKnown entry rest := by
        simp [linkKnown, hknown]
      rw [heq]
      obtain ⟨ihentries, ihlinks⟩ := ih hentry
      refine ⟨ihentries, fun a b => ?_⟩
      rw [ihlinks a b, List.mem_cons]
      constructor
      · rintro (h | ⟨rfl, hb, hbc⟩)
        · exact Or.inl h
        · exact Or.inr ⟨rfl, Or.inr hb, hbc⟩
      · rintro (h | ⟨rfl, rfl | hb, hbc⟩)
        · exact Or.inl h
        · exact absurd hbc hknown
        · exact Or.inr ⟨rfl, hb, hbc⟩

/-! ## The compendium of a set of items -/

/-- Mentioning items adds their entries and no link. -/
theorem foldl_add_spec (items : List Item) (c : Compendium) :
    (∀ a, a ∈ (items.foldl (fun c item => c.add (.ofItem item)) c).entries ↔
        a ∈ c.entries ∨ ∃ item ∈ items, .ofItem item = a) ∧
      (items.foldl (fun c item => c.add (.ofItem item)) c).links = c.links := by
  induction items generalizing c with
  | nil => exact ⟨fun a => by simp, rfl⟩
  | cons item rest ih =>
    obtain ⟨ihentries, ihlinks⟩ := ih (c.add (.ofItem item))
    refine ⟨fun a => ?_, ihlinks⟩
    rw [List.foldl_cons, ihentries a, mem_entries_add]
    constructor
    · rintro ((rfl | h) | ⟨other, hother, rfl⟩)
      · exact Or.inr ⟨item, List.mem_cons_self, rfl⟩
      · exact Or.inl h
      · exact Or.inr ⟨other, List.mem_cons_of_mem _ hother, rfl⟩
    · rintro (h | ⟨other, hother, rfl⟩)
      · exact Or.inl (Or.inr h)
      · rcases List.mem_cons.mp hother with rfl | hother
        · exact Or.inl (Or.inl rfl)
        · exact Or.inr ⟨other, hother, rfl⟩

/-- Going through the prerequisites of known items adds their links and no entry. -/
theorem foldl_linkKnown_spec (items : List Item) (c : Compendium)
    (hitems : ∀ item ∈ items, .ofItem item ∈ c.entries) :
    let linked := items.foldl
      (fun c item => c.linkKnown (.ofItem item) (Prerequisite.referencesList item.prerequisites)) c
    linked.entries = c.entries ∧ ∀ a b, linked.Requires a b ↔ c.Requires a b ∨
      ∃ item ∈ items, .ofItem item = a ∧ b ∈ Prerequisite.referencesList item.prerequisites ∧
        b ∈ c.entries := by
  induction items generalizing c with
  | nil => exact ⟨rfl, fun a b => by simp⟩
  | cons item rest ih =>
    obtain ⟨hentries, hlinks⟩ := linkKnown_spec
      (Prerequisite.referencesList item.prerequisites) (hitems item List.mem_cons_self)
    obtain ⟨ihentries, ihlinks⟩ := ih _ fun other hother =>
      hentries.symm ▸ hitems other (List.mem_cons_of_mem _ hother)
    refine ⟨ihentries.trans hentries, fun a b => ?_⟩
    rw [List.foldl_cons, ihlinks a b, hlinks a b, hentries]
    constructor
    · rintro ((h | ⟨rfl, hb, hbc⟩) | ⟨other, hother, ha, hb, hbc⟩)
      · exact Or.inl h
      · exact Or.inr ⟨item, List.mem_cons_self, rfl, hb, hbc⟩
      · exact Or.inr ⟨other, List.mem_cons_of_mem _ hother, ha, hb, hbc⟩
    · rintro (h | ⟨other, hother, ha, hb, hbc⟩)
      · exact Or.inl (Or.inl h)
      · rcases List.mem_cons.mp hother with rfl | hother
        · exact Or.inl (Or.inr ⟨ha.symm, hb, hbc⟩)
        · exact Or.inr ⟨other, hother, ha, hb, hbc⟩

/-- The entries of the compendium are those of the items. -/
theorem mem_entries_ofItems {items : List Item} :
    a ∈ (ofItems items).entries ↔ ∃ item ∈ items, .ofItem item = a := by
  obtain ⟨hentries, -⟩ := foldl_add_spec items empty
  obtain ⟨hlinked, -⟩ := foldl_linkKnown_spec items
    (items.foldl (fun c item => c.add (.ofItem item)) empty)
    fun item hitem => (hentries _).mpr (Or.inr ⟨item, hitem, rfl⟩)
  rw [ofItems, hlinked, hentries]
  simp [empty]

/-- An entry requires another if an item of it names the other. -/
theorem requires_ofItems {items : List Item} :
    (ofItems items).Requires a b ↔ b ∈ (ofItems items).entries ∧
      ∃ item ∈ items, .ofItem item = a ∧ b ∈ Prerequisite.referencesList item.prerequisites := by
  obtain ⟨hentries, hlinks⟩ := foldl_add_spec items empty
  obtain ⟨hlinked, hrequires⟩ := foldl_linkKnown_spec items
    (items.foldl (fun c item => c.add (.ofItem item)) empty)
    fun item hitem => (hentries _).mpr (Or.inr ⟨item, hitem, rfl⟩)
  have hnone : ¬ (items.foldl (fun c item => c.add (.ofItem item)) empty).Requires a b := by
    rw [Requires, hlinks]
    simp [empty]
  rw [ofItems, hrequires a b, hlinked]
  constructor
  · rintro (h | ⟨item, hitem, ha, hb, hbc⟩)
    · exact absurd h hnone
    · exact ⟨hbc, item, hitem, ha, hb⟩
  · rintro ⟨hbc, item, hitem, ha, hb⟩
    exact Or.inr ⟨item, hitem, ha, hb, hbc⟩

end CharacterSheet.Compendium
