import CharacterSheet.Proofs.Prerequisite.Canonical

/-!
# Loaded prerequisites are canonical

Loading reads every text, so what it makes of one reads as the same again: trimming leaves no blank
behind a key, the words of an attribute requirement hold no blanks, and a text that was no number is
still none. The one thing that loading lets through and saving cannot express is a combination all of
whose nodes were left out (`IsFull` is what it lacks).
-/

namespace CharacterSheet

/-! ## Inverting what loading does -/

namespace Loaded

variable {α β : Type}

theorem exists_of_map_eq_ok {x : Loaded α} {f : α → β} {b : β} (h : x.map f = .ok b) :
    ∃ a, x = .ok a ∧ f a = b := by
  cases x with
  | error fault => cases h
  | ok a => exact ⟨a, rfl, Except.ok.inj h⟩

theorem exists_of_bind_eq_ok {x : Loaded α} {f : α → Loaded β} {b : β} (h : x >>= f = .ok b) :
    ∃ a, x = .ok a ∧ f a = .ok b := by
  cases x with
  | error fault => cases h
  | ok a => exact ⟨a, rfl, h⟩

end Loaded

/-! ## Requirements -/

theorem Threshold.canonical_of_ofText {tag s : String} {least : Threshold}
    (h : ofText tag s = .ok least) : least.Canonical := by
  have hlast : ∀ c ∈ (Text.trim s.toList).getLast?, Text.isBlank c = false :=
    fun c => Text.isBlank_of_mem_getLast?_trim
  simp only [ofText] at h
  -- what stands behind the `@` ends where the trimmed text ends
  generalize Text.trim s.toList = trimmed at h hlast
  split at h
  · obtain rfl := Except.ok.inj h
    exact trivial
  · next c reference _ =>
    split at h
    · obtain rfl := Except.ok.inj h
      exact trivial
    · next hnone =>
      obtain rfl := Except.ok.inj h
      refine ⟨?_, ?_, hnone⟩
      · rw [Ne, ← String.toList_eq_nil_iff, String.toList_ofList]
        exact List.cons_ne_nil c reference
      · rw [String.toList_ofList]
        simpa [List.getLast?_cons_cons] using hlast
  · cases h

theorem Special.eq_of_ofText_eq_other {s t : String} (h : ofText s = .other t) : t = s := by
  rw [ofText] at h
  dsimp only at h
  split at h
  · cases h
  · split at h
    · cases h
    · split at h
      · cases h
      · exact (Special.other.inj h).symm

/-- The rules with a meaning of their own are read from their texts. -/
theorem Special.ofText_toText_of_mem :
    ∀ rule ∈ [Special.notDroid, .droid, .builtLightsaber], ofText rule.toText = rule := by
  decide +kernel

theorem Special.ofText_toText_ofText (s : String) : ofText (ofText s).toText = ofText s := by
  cases hrule : ofText s with
  | other t =>
    obtain rfl := eq_of_ofText_eq_other hrule
    exact hrule
  | notDroid | droid | builtLightsaber => exact ofText_toText_of_mem _ (by simp)

theorem Condition.canonical_of_attributeOfText {s : String} {condition : Condition}
    (h : attributeOfText s = .ok condition) :
    condition.Canonical ∧ condition.leafTag? = some .attributeSum := by
  rw [attributeOfText] at h
  split at h
  · next key least hwords =>
    have hkey : key ≠ [] ∧ ∀ c ∈ key, Text.isBlank c = false :=
      Text.mem_wordsFrom (by simp) (hwords ▸ List.mem_cons_self)
    split at h
    · obtain rfl := Except.ok.inj h
      refine ⟨⟨?_, ?_⟩, rfl⟩
      · rw [Ne, ← String.toList_eq_nil_iff, String.toList_ofList]
        exact hkey.1
      · rw [String.toList_ofList]
        exact hkey.2
    · cases h
  · cases h

theorem Condition.canonical_of_ofText {s : String} {tag : LeafTag} {condition : Condition}
    (h : ofText s tag = .ok condition) : condition.Canonical ∧ condition.leafTag? = some tag := by
  cases tag with
  | age =>
    obtain rfl := Except.ok.inj h
    exact ⟨trivial, rfl⟩
  | characterLevel =>
    obtain ⟨least, -, rfl⟩ := Loaded.exists_of_map_eq_ok h
    exact ⟨trivial, rfl⟩
  | baseAttackBonus =>
    obtain ⟨least, -, rfl⟩ := Loaded.exists_of_map_eq_ok h
    exact ⟨trivial, rfl⟩
  | darkSideScore =>
    obtain ⟨least, hleast, rfl⟩ := Loaded.exists_of_map_eq_ok h
    exact ⟨Threshold.canonical_of_ofText hleast, rfl⟩
  | asset kind =>
    cases kind with
    | technique =>
      obtain rfl := Except.ok.inj h
      rw [techniqueOfText]
      split
      · exact ⟨trivial, rfl⟩
      · next hname => exact ⟨hname, rfl⟩
    | _ =>
      obtain rfl := Except.ok.inj h
      exact ⟨trivial, rfl⟩
  | attributeSum => exact canonical_of_attributeOfText h
  | special =>
    obtain rfl := Except.ok.inj h
    exact ⟨Special.ofText_toText_ofText s, rfl⟩

theorem Condition.canonical_of_ofFields {requirement low high : Option AuthoredField}
    {tag : LeafTag} {condition : Condition} (h : ofFields requirement low high tag = .ok condition) :
    condition.Canonical ∧ condition.leafTag? = some tag := by
  rw [ofFields.eq_def] at h
  split at h
  · obtain ⟨low, -, h⟩ := Loaded.exists_of_bind_eq_ok h
    obtain ⟨high, -, h⟩ := Loaded.exists_of_bind_eq_ok h
    obtain rfl := Except.ok.inj h
    exact ⟨trivial, rfl⟩
  · split at h
    · cases h
    · exact canonical_of_ofText h

/-! ## Trees -/

theorem Tag.isBlankText_text (tag : Tag) : Text.isBlankText tag.text = false := by
  rcases tag with (_ | _ | _ | _ | kind | _ | _) | _ | _
  all_goals first | decide | (cases kind <;> decide)

namespace Prerequisite

mutual

/-- Every combination has nodes below it. -/
def IsFull : Prerequisite → Prop
  | leaf _ _ => True
  | all _ children | any _ _ children => children ≠ [] ∧ IsFullList children

/-- The same of every node of a list. -/
def IsFullList : List Prerequisite → Prop
  | [] => True
  | node :: rest => node.IsFull ∧ IsFullList rest

end

theorem isBlankText_tagText_of_load {node : AuthoredNode} {loaded : Prerequisite}
    (htag : node.isTagged = true) (h : load node = .ok loaded) :
    Text.isBlankText loaded.tagText = false := by
  obtain ⟨tag, text, requirement, low, high, count, children⟩ := node
  rw [load] at h
  split at h
  · -- outside the vocabulary the tag stays as it was authored
    obtain rfl := Except.ok.inj h
    cases tag with
    | none => cases htag
    | some tag =>
      show Text.isBlankText tag = false
      simpa [AuthoredNode.isTagged] using htag
  · next leaf _ =>
    obtain ⟨condition, hcondition, rfl⟩ := Loaded.exists_of_map_eq_ok h
    have hleaf := (Condition.canonical_of_ofFields hcondition).2
    rw [tagText, Condition.tagText_of_leafTag? hleaf]
    exact Tag.isBlankText_text (.leaf leaf)
  · split at h
    · cases h
    · obtain ⟨nodes, -, rfl⟩ := Loaded.exists_of_map_eq_ok h
      exact Tag.isBlankText_text .all
  · split at h
    · cases h
    · obtain ⟨nodes, -, h⟩ := Loaded.exists_of_bind_eq_ok h
      obtain ⟨least, -, h⟩ := Loaded.exists_of_bind_eq_ok h
      obtain rfl := Except.ok.inj h
      exact Tag.isBlankText_text .any

mutual

/-- What was loaded is canonical, unless a combination in it has no nodes. -/
theorem canonical_of_load : ∀ {node : AuthoredNode} {loaded : Prerequisite},
    load node = .ok loaded → loaded.IsFull → loaded.Canonical
  | ⟨tag, text, requirement, low, high, count, children⟩, loaded, h, hfull => by
    rw [load] at h
    split at h
    · next hunknown =>
      obtain rfl := Except.ok.inj h
      exact hunknown
    · obtain ⟨condition, hcondition, rfl⟩ := Loaded.exists_of_map_eq_ok h
      exact (Condition.canonical_of_ofFields hcondition).1
    · split at h
      · cases h
      · obtain ⟨nodes, hnodes, rfl⟩ := Loaded.exists_of_map_eq_ok h
        obtain ⟨hne, hfull⟩ := hfull
        exact ⟨hne, canonicalList_of_loadList hnodes hfull⟩
    · split at h
      · cases h
      · obtain ⟨nodes, hnodes, h⟩ := Loaded.exists_of_bind_eq_ok h
        obtain ⟨least, -, h⟩ := Loaded.exists_of_bind_eq_ok h
        obtain rfl := Except.ok.inj h
        obtain ⟨hne, hfull⟩ := hfull
        exact ⟨hne, canonicalList_of_loadList hnodes hfull⟩

/-- The same of a list of nodes, out of which those without a tag are left. -/
theorem canonicalList_of_loadList : ∀ {nodes : List AuthoredNode} {loaded : List Prerequisite},
    loadList nodes = .ok loaded → IsFullList loaded → CanonicalList loaded
  | [], loaded, h, _ => by
    obtain rfl := Except.ok.inj h
    exact trivial
  | node :: rest, loaded, h, hfull => by
    rw [loadList] at h
    split at h
    · next htag =>
      obtain ⟨first, hfirst, h⟩ := Loaded.exists_of_bind_eq_ok h
      obtain ⟨others, hothers, h⟩ := Loaded.exists_of_bind_eq_ok h
      obtain rfl := Except.ok.inj h
      obtain ⟨hfullFirst, hfullOthers⟩ := hfull
      exact ⟨⟨isBlankText_tagText_of_load htag hfirst, canonical_of_load hfirst hfullFirst⟩,
        canonicalList_of_loadList hothers hfullOthers⟩
    · exact canonicalList_of_loadList h hfull

end

end Prerequisite

end CharacterSheet
