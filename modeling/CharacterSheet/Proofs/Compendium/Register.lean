import CharacterSheet.Proofs.Compendium.Mentions

/-!
# A register shows a compendium

A register finds its entries through a table and keeps them in a graph, and both grow with each mention.
That they stay together is an invariant (`Register.Fits`): the table leads from an entry to the place
where the graph has it and to no other, and an edge leads to a place where there is an entry. A mention
keeps this, whether it adds no entry, one or two, and an edge that is there already or not.

While it holds, a register shows a compendium (`Register.Shows`): the entries are the same, and each of
them requires the same. A mention does the same to both, so what is known of compendia that are built by
mentions is known of registers (`Register.ofMentions_keeps_first_mentions`).
-/

namespace CharacterSheet

theorem getElem?_concat_eq_some {α : Type} {as : List α} {a b : α} {i : Nat} :
    (as ++ [a])[i]? = some b ↔ as[i]? = some b ∨ (i = as.length ∧ a = b) := by
  rcases Nat.lt_trichotomy i as.length with hlt | rfl | hgt
  · rw [List.getElem?_append_left hlt]
    exact ⟨Or.inl, fun h => h.elim id fun h => absurd h.1 (Nat.ne_of_lt hlt)⟩
  · simp
  · rw [List.getElem?_eq_none (by simp; omega), List.getElem?_eq_none (Nat.le_of_lt hgt)]
    simp [Nat.ne_of_gt hgt]

/-! ## Graphs -/

namespace Graph

variable {graph : Graph} {place source target : Nat}

@[simp] theorem entries_add (graph : Graph) (entry : Entry) :
    (graph.add entry).2.entries = graph.entries ++ [entry] := by
  simp [add, entries]

theorem add_place (graph : Graph) (entry : Entry) :
    (graph.add entry).1 = graph.entries.length := by
  simp [add, entries]

/-- A new node has no edges yet. -/
@[simp] theorem targets_add (graph : Graph) (entry : Entry) (place : Nat) :
    (graph.add entry).2.targets place = graph.targets place := by
  rcases Nat.lt_trichotomy place graph.nodes.length with hlt | rfl | hgt
  · rw [targets, add, List.getElem?_append_left hlt, targets]
  · simp [targets, add]
  · rw [targets, add, List.getElem?_eq_none (by simp; omega), targets,
      List.getElem?_eq_none (Nat.le_of_lt hgt)]

theorem connect_of_mem (h : target ∈ graph.targets source) : graph.connect source target = graph :=
  if_pos h

theorem connect_of_notMem (h : target ∉ graph.targets source) :
    graph.connect source target =
      { nodes := graph.nodes.modify source fun node =>
          { node with targets := target :: node.targets } } :=
  if_neg h

@[simp] theorem entries_connect (graph : Graph) (source target : Nat) :
    (graph.connect source target).entries = graph.entries := by
  by_cases h : target ∈ graph.targets source
  · rw [connect_of_mem h]
  · rw [connect_of_notMem h]
    refine List.ext_getElem? fun i => ?_
    simp only [entries, List.getElem?_map, List.getElem?_modify]
    cases graph.nodes[i]? with
    | none => rfl
    | some node =>
      by_cases hi : source = i
      · simp [hi]
      · simp [hi]

/-- A new edge comes before those that its node has. -/
theorem targets_connect_self (h : target ∉ graph.targets source)
    (hsource : source < graph.entries.length) :
    (graph.connect source target).targets source = target :: graph.targets source := by
  rw [entries, List.length_map] at hsource
  simp [connect_of_notMem h, targets, hsource]

theorem targets_connect_of_ne (target : Nat) (h : place ≠ source) :
    (graph.connect source target).targets place = graph.targets place := by
  by_cases hold : target ∈ graph.targets source
  · rw [connect_of_mem hold]
  · simp [connect_of_notMem hold, targets, h.symm]

end Graph

namespace Register

variable {register : Register} {a b entry : Entry} {place : Nat}

/-! ## Table and graph -/

/-- Table and graph fit together. -/
structure Fits (register : Register) : Prop where
  place?_eq_some_iff : ∀ {entry place},
    register.place? entry = some place ↔ register.entries[place]? = some entry
  lt_of_mem_targets : ∀ {place target},
    target ∈ register.graph.targets place → target < register.entries.length

theorem Fits.place?_eq_none_iff (fits : register.Fits) :
    register.place? entry = none ↔ entry ∉ register.entries := by
  rw [Option.eq_none_iff_forall_ne_some, List.mem_iff_getElem?, not_exists]
  exact forall_congr' fun place => not_congr fits.place?_eq_some_iff

theorem Fits.contains_iff (fits : register.Fits) :
    register.contains entry = true ↔ entry ∈ register.entries := by
  rw [contains, Option.isSome_iff_ne_none, ne_eq, fits.place?_eq_none_iff, not_not]

theorem Fits.nodup_entries (fits : register.Fits) : register.entries.Nodup := by
  rw [List.nodup_iff_getElem?_ne_getElem?]
  intro i j hij hj heq
  rw [List.getElem?_eq_getElem hj] at heq
  have hplaces := (fits.place?_eq_some_iff.mpr heq).symm.trans
    (fits.place?_eq_some_iff.mpr (List.getElem?_eq_getElem hj))
  exact Nat.ne_of_lt hij (Option.some.inj hplaces)

/-- The place of an entry is where it stands among the entries. -/
theorem Fits.idxOf_eq (fits : register.Fits) (h : register.place? entry = some place) :
    register.entries.idxOf entry = place := by
  obtain ⟨hlt, rfl⟩ := List.getElem?_eq_some_iff.mp (fits.place?_eq_some_iff.mp h)
  exact fits.nodup_entries.idxOf_getElem place hlt

theorem requirements_of_place (h : register.place? entry = some place) :
    register.requirements entry =
      ((register.graph.targets place).filterMap (register.entries[·]?)).reverse := by
  rw [requirements, h]

theorem requirements_of_unknown (h : register.place? entry = none) :
    register.requirements entry = [] := by
  rw [requirements, h]

/-- An entry requires another if there is an edge between their places. -/
theorem Fits.mem_requirements_iff (fits : register.Fits) {source target : Nat}
    (ha : register.place? a = some source) (hb : register.place? b = some target) :
    b ∈ register.requirements a ↔ target ∈ register.graph.targets source := by
  rw [requirements_of_place ha, List.mem_reverse, List.mem_filterMap]
  simp only [← fits.place?_eq_some_iff, hb, Option.some.injEq]
  simp

/-- What an entry requires is the same where its place is, the edges from there are, and no entry is
another. -/
theorem Fits.requirements_congr (fits : register.Fits) {register' : Register}
    (hplace : register'.place? entry = register.place? entry)
    (htargets : ∀ place, register.place? entry = some place →
      register'.graph.targets place = register.graph.targets place)
    (hentries : register.entries <+: register'.entries) :
    register'.requirements entry = register.requirements entry := by
  cases h : register.place? entry with
  | none => rw [requirements_of_unknown h, requirements_of_unknown (hplace.trans h)]
  | some place =>
    rw [requirements_of_place h, requirements_of_place (hplace.trans h), htargets place h]
    obtain ⟨more, hmore⟩ := hentries
    congr 1
    refine List.filterMap_congr fun target htarget => ?_
    rw [← hmore, List.getElem?_append_left (fits.lt_of_mem_targets htarget)]

/-! ## Adding -/

theorem add_of_place (h : register.place? entry = some place) :
    register.add entry = (place, register) := by
  rw [add, h]

theorem add_of_unknown (h : register.place? entry = none) :
    register.add entry = ((register.graph.add entry).1,
      { graph := (register.graph.add entry).2
        places := (entry, (register.graph.add entry).1) :: register.places }) := by
  rw [add, h]

@[simp] theorem place?_add_self (register : Register) (entry : Entry) :
    (register.add entry).2.place? entry = some (register.add entry).1 := by
  cases h : register.place? entry with
  | some place => rw [add_of_place h, h]
  | none => rw [add_of_unknown h, place?, List.lookup_cons_self]

theorem place?_add_of_ne (h : a ≠ entry) :
    (register.add entry).2.place? a = register.place? a := by
  cases hentry : register.place? entry with
  | some place => rw [add_of_place hentry]
  | none =>
    rw [add_of_unknown hentry, place?, List.lookup_cons, beq_false_of_ne h]
    rfl

/-- The place of an entry stays. -/
theorem place?_add_of_place (h : register.place? a = some place) :
    (register.add entry).2.place? a = some place := by
  by_cases hne : a = entry
  · rw [add_of_place (hne ▸ h), h]
  · rw [place?_add_of_ne hne, h]

theorem entries_add_of_unknown (h : register.place? entry = none) :
    (register.add entry).2.entries = register.entries ++ [entry] := by
  rw [add_of_unknown h]
  exact Graph.entries_add _ _

theorem Fits.entries_add (fits : register.Fits) (entry : Entry) :
    (register.add entry).2.entries = appendNew entry register.entries := by
  cases h : register.place? entry with
  | some place =>
    have hentry := List.mem_of_getElem? (fits.place?_eq_some_iff.mp h)
    rw [add_of_place h, appendNew, if_pos hentry]
  | none =>
    rw [entries_add_of_unknown h, appendNew, if_neg (fits.place?_eq_none_iff.mp h)]

@[simp] theorem targets_add (register : Register) (entry : Entry) (place : Nat) :
    (register.add entry).2.graph.targets place = register.graph.targets place := by
  cases h : register.place? entry with
  | some place => rw [add_of_place h]
  | none =>
    rw [add_of_unknown h]
    exact Graph.targets_add _ _ _

theorem Fits.add (fits : register.Fits) (entry : Entry) : (register.add entry).2.Fits := by
  cases h : register.place? entry with
  | some place => rwa [add_of_place h]
  | none =>
    -- the new node comes last, and the table gets its place
    have hentries := entries_add_of_unknown h
    have hplace : (register.add entry).1 = register.entries.length := by
      rw [add_of_unknown h]
      exact Graph.add_place _ entry
    constructor
    · intro a place
      rw [hentries, getElem?_concat_eq_some, ← fits.place?_eq_some_iff]
      by_cases ha : a = entry
      · rw [ha, place?_add_self, h, hplace]
        simp [eq_comm]
      · rw [place?_add_of_ne ha]
        simp [Ne.symm ha]
    · intro place target htarget
      rw [targets_add] at htarget
      rw [hentries, List.length_append]
      exact Nat.lt_add_right _ (fits.lt_of_mem_targets htarget)

/-- A new entry requires nothing yet, and the others require what they did. -/
theorem Fits.requirements_add (fits : register.Fits) (entry a : Entry) :
    (register.add entry).2.requirements a = register.requirements a := by
  cases h : register.place? entry with
  | some place => rw [add_of_place h]
  | none =>
    by_cases ha : a = entry
    · -- an entry that was unknown required nothing before either
      have hplace : (register.add entry).1 = register.graph.nodes.length := by
        rw [add_of_unknown h]
        rfl
      rw [ha, requirements_of_unknown h, requirements_of_place (place?_add_self register entry),
        targets_add, hplace]
      simp [Graph.targets]
    · refine fits.requirements_congr (place?_add_of_ne ha) (fun _ _ => targets_add _ _ _) ?_
      exact ⟨[entry], (entries_add_of_unknown h).symm⟩

/-! ## Linking -/

@[simp] theorem entries_connect (register : Register) (source target : Nat) :
    (register.connect source target).entries = register.entries :=
  Graph.entries_connect _ _ _

@[simp] theorem place?_connect (register : Register) (source target : Nat) (entry : Entry) :
    (register.connect source target).place? entry = register.place? entry := rfl

theorem connect_of_mem {source target : Nat} (h : target ∈ register.graph.targets source) :
    register.connect source target = register := by
  rw [connect, Graph.connect_of_mem h]

theorem Fits.lt_of_place (fits : register.Fits) (h : register.place? entry = some place) :
    place < register.entries.length :=
  (List.getElem?_eq_some_iff.mp (fits.place?_eq_some_iff.mp h)).1

/-- No two entries have the same place. -/
theorem Fits.entry_eq (fits : register.Fits) (ha : register.place? a = some place)
    (hb : register.place? b = some place) : a = b := by
  rw [fits.place?_eq_some_iff] at ha hb
  exact Option.some.inj (ha.symm.trans hb)

section connect

variable {source target : Nat} (fits : register.Fits) (ha : register.place? a = some source)
  (hb : register.place? b = some target)
include fits ha hb

theorem Fits.connect : (register.connect source target).Fits := by
  by_cases hold : target ∈ register.graph.targets source
  · rwa [connect_of_mem hold]
  · constructor
    · intro entry place
      rw [entries_connect]
      exact fits.place?_eq_some_iff
    · intro place other hother
      rw [entries_connect]
      by_cases hplace : place = source
      · rw [hplace, Register.connect,
          Graph.targets_connect_self hold (fits.lt_of_place ha)] at hother
        rcases List.mem_cons.mp hother with rfl | hother
        · exact fits.lt_of_place hb
        · exact fits.lt_of_mem_targets hother
      · rw [Register.connect, Graph.targets_connect_of_ne target hplace] at hother
        exact fits.lt_of_mem_targets hother

/-- An edge between two entries adds to what the first of them requires, unless it is there. -/
theorem Fits.requirements_connect (entry : Entry) :
    (register.connect source target).requirements entry =
      if a = entry then appendNew b (register.requirements entry)
      else register.requirements entry := by
  have hrequires := fits.mem_requirements_iff ha hb
  by_cases hold : target ∈ register.graph.targets source
  · rw [connect_of_mem hold]
    split
    · next heq => rw [← heq, appendNew, if_pos (hrequires.mpr hold)]
    · rfl
  · split
    · next heq =>
      -- the newest edge is listed first, and so its entry comes last
      rw [← heq, appendNew, if_neg (hrequires.not.mpr hold), requirements_of_place ha,
        requirements_of_place ((place?_connect _ _ _ _).trans ha), entries_connect,
        Register.connect, Graph.targets_connect_self hold (fits.lt_of_place ha),
        List.filterMap_cons, fits.place?_eq_some_iff.mp hb, List.reverse_cons]
    · next hne =>
      -- another entry has another place, where no edge is put in
      refine fits.requirements_congr rfl (fun place hplace => ?_) (by simp)
      refine Graph.targets_connect_of_ne target ?_
      rintro rfl
      exact hne (fits.entry_eq ha hplace)

end connect

/-- The two entries of a link have places when it comes to the edge. -/
theorem exists_link_eq_connect (register : Register) (a b : Entry) :
    ∃ source target,
      ((register.add a).2.add b).2.place? a = some source ∧
        ((register.add a).2.add b).2.place? b = some target ∧
        register.link a b = ((register.add a).2.add b).2.connect source target :=
  ⟨_, _, place?_add_of_place (place?_add_self register a), place?_add_self _ b, rfl⟩

/-! ## Registers and compendia -/

/-- A register shows a compendium: both have the same entries, which require the same. -/
structure Shows (register : Register) (c : Compendium) : Prop where
  fits : register.Fits
  entries_eq : register.entries = c.entries
  requirements_eq : ∀ entry, register.requirements entry = c.requirements entry

variable {c : Compendium}

theorem shows_empty : ({} : Register).Shows Compendium.empty where
  fits := ⟨by simp [place?, entries, Graph.entries], by simp [Graph.targets]⟩
  entries_eq := rfl
  requirements_eq _ := rfl

theorem Shows.add (h : register.Shows c) (entry : Entry) :
    (register.add entry).2.Shows (c.add entry) where
  fits := h.fits.add entry
  entries_eq := by rw [h.fits.entries_add, h.entries_eq, Compendium.add]
  requirements_eq a := (h.fits.requirements_add entry a).trans (h.requirements_eq a)

theorem Shows.link (h : register.Shows c) (a b : Entry) :
    (register.link a b).Shows (c.link a b) := by
  obtain ⟨source, target, hsource, htarget, hlink⟩ := register.exists_link_eq_connect a b
  have added := (h.add a).add b
  rw [hlink]
  exact {
    fits := added.fits.connect hsource htarget
    entries_eq := (entries_connect _ _ _).trans added.entries_eq
    requirements_eq entry := by
      rw [added.fits.requirements_connect hsource htarget, added.requirements_eq,
        Compendium.requirements_link]
      rfl }

theorem Shows.mention (h : register.Shows c) (m : Mention) :
    (register.mention m).Shows (c.mention m) := by
  cases m with
  | entry entry => exact h.add entry
  | link dependent requirement => exact h.link dependent requirement

/-- Mentions build a register and a compendium that it shows. -/
theorem shows_ofMentions (mentions : List Mention) :
    (ofMentions mentions).Shows (Compendium.ofMentions mentions) :=
  List.foldl_rel shows_empty fun m _ _ _ h => h.mention m

theorem Shows.linkKnown (h : register.Shows c) (entry : Entry) (references : List Entry) :
    (register.linkKnown entry references).Shows (c.linkKnown entry references) := by
  refine List.foldl_rel h fun reference _ register c h => ?_
  have hknown : register.contains reference = true ↔ reference ∈ c.entries := by
    rw [h.fits.contains_iff, h.entries_eq]
  by_cases hreference : reference ∈ c.entries
  · rw [if_pos hreference, if_pos (hknown.mpr hreference)]
    exact h.link entry reference
  · rw [if_neg hreference, if_neg (hknown.not.mpr hreference)]
    exact h

/-- The register of a set of items shows their compendium. -/
theorem shows_ofItems (items : List Item) :
    (ofItems items).Shows (Compendium.ofItems items) := by
  refine List.foldl_rel ?_ fun item _ _ _ h => h.linkKnown _ _
  exact List.foldl_rel shows_empty fun item _ _ _ h => h.add _

/-! ## What is kept -/

theorem place?_mention_of_place (h : register.place? entry = some place) (m : Mention) :
    (register.mention m).place? entry = some place := by
  cases m with
  | entry other => exact place?_add_of_place h
  | link a b =>
    obtain ⟨source, target, -, -, hlink⟩ := register.exists_link_eq_connect a b
    rw [mention, hlink, place?_connect]
    exact place?_add_of_place (place?_add_of_place h)

/-- Whatever is mentioned later, the place of an entry stays. -/
theorem place?_foldl_mention (h : register.place? entry = some place) (later : List Mention) :
    (later.foldl mention register).place? entry = some place := by
  induction later generalizing register with
  | nil => exact h
  | cons m rest ih => exact ih (place?_mention_of_place h m)

theorem add_of_contains (h : register.contains entry = true) :
    (register.add entry).2 = register := by
  obtain ⟨place, hplace⟩ := Option.isSome_iff_exists.mp h
  rw [add_of_place hplace]

/-- An entry that requires another may be linked to it again. -/
theorem Fits.link_of_requires (fits : register.Fits) (h : b ∈ register.requirements a) :
    register.link a b = register := by
  cases ha : register.place? a with
  | none =>
    rw [requirements_of_unknown ha] at h
    cases h
  | some source =>
    rw [requirements_of_place ha, List.mem_reverse, List.mem_filterMap] at h
    obtain ⟨target, htarget, hentry⟩ := h
    have hb := fits.place?_eq_some_iff.mpr hentry
    simp only [link, add_of_place ha, add_of_place hb]
    exact connect_of_mem htarget

/-- What was mentioned once may be mentioned again. -/
theorem mention_of_mem {mentions : List Mention} {m : Mention} (h : m ∈ mentions) :
    (ofMentions mentions).mention m = ofMentions mentions := by
  have hshows := shows_ofMentions mentions
  cases m with
  | entry entry =>
    refine add_of_contains (hshows.fits.contains_iff.mpr ?_)
    rw [hshows.entries_eq]
    exact Compendium.mem_entries_ofMentions.mpr ⟨_, h, by simp [Mention.entries]⟩
  | link a b =>
    refine hshows.fits.link_of_requires ?_
    rw [hshows.requirements_eq]
    exact Compendium.mem_requirements.mpr (Compendium.requires_ofMentions h)

/-- A register has each entry that was mentioned once, in the order of their first mentions, and no
other, and knows of no other. The place of an entry that is added is where it stands then and after all
later mentions. What an entry requires are the targets of its links, each of them once and in the order
of the first mentions; an unknown entry requires nothing. To mention an entry or a link again changes
nothing. -/
theorem ofMentions_keeps_first_mentions (mentions : List Mention) :
    let register := ofMentions mentions
    register.entries.Nodup ∧ register.entries = (mentions.flatMap Mention.entries).eraseDups ∧
      (∀ entry, register.contains entry = true ↔ entry ∈ register.entries) ∧
      (∀ entry later,
        let place := (register.add entry).1
        let register' := ofMentions (mentions ++ .entry entry :: later)
        register'.entries[place]? = some entry ∧ register'.entries.idxOf entry = place ∧
          (register'.add entry).1 = place) ∧
      (∀ entry,
        register.requirements entry = (mentions.filterMap (Mention.requirement? entry)).eraseDups ∧
          (register.contains entry = false → register.requirements entry = [])) ∧
      (∀ entry, register.contains entry = true → (register.add entry).2 = register) ∧
      ∀ m ∈ mentions, register.mention m = register := by
  intro register
  have hshows : register.Shows (Compendium.ofMentions mentions) := shows_ofMentions mentions
  refine ⟨hshows.fits.nodup_entries, ?_, fun _ => hshows.fits.contains_iff, ?_, ?_,
    fun _ => add_of_contains, fun _ => mention_of_mem⟩
  · rw [hshows.entries_eq, Compendium.entries_ofMentions]
  · intro entry later place register'
    have hlater : register' = later.foldl mention (register.add entry).2 := List.foldl_append
    have fits : register'.Fits := (shows_ofMentions _).fits
    have hplace : register'.place? entry = some place := by
      rw [hlater]
      exact place?_foldl_mention (place?_add_self register entry) later
    exact ⟨fits.place?_eq_some_iff.mp hplace, fits.idxOf_eq hplace, by rw [add_of_place hplace]⟩
  · intro entry
    refine ⟨?_, fun hunknown => requirements_of_unknown (Option.isNone_iff_eq_none.mp ?_)⟩
    · rw [hshows.requirements_eq, Compendium.requirements_ofMentions]
    · rwa [contains, Option.isSome_eq_false_iff] at hunknown

/-- An entry may require itself, and a link that is mentioned twice is one. -/
example :
    let parry : Entry := ⟨.talent, "Parry"⟩
    let riposte : Entry := ⟨.talent, "Riposte"⟩
    let register :=
      ofMentions [.link riposte parry, .link riposte riposte, .link riposte parry]
    register.entries = [riposte, parry] ∧ register.graph.targets 0 = [0, 1] ∧
      register.requirements riposte = [parry, riposte] := by
  decide

end Register

end CharacterSheet
