import CharacterSheet.Proofs.Prerequisite.Loaded

/-!
# Which prerequisites come back

Prerequisites that are put together by hand, and not loaded, may hold any text: a key with blanks in it,
a technique that goes by a number, a tag outside the vocabulary that spells one of it. Saved, such a text
reads as something else or as nothing at all. `IsUnambiguous` says what keeps every text of a tree from
that, and `load_save_iff` that it is just what is needed: a prerequisite comes back from what it is saved
as if it is unambiguous, and never otherwise.
-/

namespace CharacterSheet

/-! ## Conditions -/

/-- The text of a condition reads as nothing else. -/
def Condition.IsUnambiguous : Condition → Prop
  | .attributeSum key _ => key ≠ "" ∧ ∀ c ∈ key.toList, Text.isBlank c = false
  | .darkSideScore (.attributeSum key) =>
    key ≠ "" ∧ (∀ c ∈ key.toList.getLast?, Text.isBlank c = false) ∧
      ∀ ability : Ability, Text.sameAsciiLowercase (ability.abbreviation ++ "TOTAL") key = false
  | .asset .technique name => Text.readUInt32 (Text.trim name.toList) = none
  | .special (.other text) => Special.ofText text ∉ [.notDroid, .droid, .builtLightsaber]
  | .unsupported tag _ => ∀ known : Tag, Tag.normalize tag ≠ known.text.toList
  | _ => True

/-- No ability total goes by a reference if none has its name. -/
theorem Ability.ofTotal?_eq_none_iff {reference : String} :
    ofTotal? reference = none ↔ ∀ ability : Ability,
      Text.sameAsciiLowercase (ability.abbreviation ++ "TOTAL") reference = false := by
  rw [ofTotal?, List.find?_eq_none]
  constructor
  · intro h ability
    simpa using h ability ability.mem_list
  · intro h ability _
    simp [h ability]

/-- A text is no tag if it spells none. -/
theorem Tag.ofText?_eq_none_iff {text : String} :
    ofText? text = none ↔ ∀ known : Tag, normalize text ≠ known.text.toList := by
  rw [ofText?, List.find?_eq_none]
  constructor
  · intro h known heq
    exact h known known.mem_list (by simp [heq])
  · intro h known _ heq
    exact h known (beq_iff_eq.mp heq).symm

/-- A free text stays one if it is none of the rules with a meaning. -/
theorem Special.ofText_eq_other_iff {text : String} :
    ofText text = .other text ↔ ofText text ∉ [.notDroid, .droid, .builtLightsaber] := by
  constructor
  · intro h
    simp [h]
  · intro h
    cases hrule : ofText text with
    | other same => rw [eq_of_ofText_eq_other hrule]
    | notDroid | droid | builtLightsaber => simp [hrule] at h

/-- A condition is read as it was saved if its text is unambiguous, as that of a fixed rule always is. -/
theorem Condition.canonical_iff_isUnambiguous {condition : Condition} :
    condition.Canonical ↔ condition.IsUnambiguous := by
  cases condition with
  | darkSideScore least =>
    cases least with
    | attributeSum key =>
      exact and_congr_right' (and_congr_right' Ability.ofTotal?_eq_none_iff)
    | fixed | abilityScore => exact Iff.rfl
  | asset kind name => cases kind <;> exact Iff.rfl
  | special rule =>
    cases rule with
    | other text => exact Special.ofText_eq_other_iff
    | notDroid | droid | builtLightsaber =>
      exact iff_of_true (Special.ofText_toText_of_mem _ (by simp)) trivial
  | unsupported tag requirement => exact Tag.ofText?_eq_none_iff
  | _ => exact Iff.rfl

namespace Prerequisite

/-! ## Trees -/

/-- A node that loading leaves out of a list. -/
def IsLeftOut : Prerequisite → Prop
  | leaf _ (.unsupported tag _) => Text.isBlankText tag = true
  | _ => False

mutual

/-- The texts of a tree read as nothing else, and every combination has nodes that are not left out. -/
def IsUnambiguous : Prerequisite → Prop
  | leaf _ condition => condition.IsUnambiguous
  | all _ children | any _ _ children => children ≠ [] ∧ AreUnambiguous children

/-- The same of every node of a list, none of which is left out. -/
def AreUnambiguous : List Prerequisite → Prop
  | [] => True
  | node :: rest => (node.IsUnambiguous ∧ ¬ node.IsLeftOut) ∧ AreUnambiguous rest

end

/-- Only a tag outside the vocabulary may be blank. -/
theorem isBlankText_tagText_eq_false_iff {node : Prerequisite} :
    Text.isBlankText node.tagText = false ↔ ¬ node.IsLeftOut := by
  cases node with
  | leaf text condition =>
    cases hleaf : condition.leafTag? with
    | some tag =>
      rw [tagText, Condition.tagText_of_leafTag? hleaf]
      refine iff_of_true (Tag.isBlankText_text (.leaf tag)) fun hout => ?_
      cases condition with
      | unsupported => cases hleaf
      | _ => exact hout
    | none =>
      cases condition with
      | unsupported tag requirement => exact (Bool.not_eq_true _).symm.to_iff
      | _ => cases hleaf
  | all text children => exact iff_of_true (Tag.isBlankText_text .all) id
  | any text count children => exact iff_of_true (Tag.isBlankText_text .any) id

mutual

theorem canonical_iff_isUnambiguous : (node : Prerequisite) → (node.Canonical ↔ node.IsUnambiguous)
  | leaf _ _ => Condition.canonical_iff_isUnambiguous
  | all _ children => and_congr_right' (canonicalList_iff_areUnambiguous children)
  | any _ _ children => and_congr_right' (canonicalList_iff_areUnambiguous children)

theorem canonicalList_iff_areUnambiguous : (nodes : List Prerequisite) →
    (CanonicalList nodes ↔ AreUnambiguous nodes)
  | [] => Iff.rfl
  | node :: rest => by
    have hnode := canonical_iff_isUnambiguous node
    have hrest := canonicalList_iff_areUnambiguous rest
    rw [CanonicalList, AreUnambiguous, hnode, hrest, isBlankText_tagText_eq_false_iff]
    exact and_congr_left' and_comm

end

/-! ## What comes back -/

theorem length_le_of_loadList {authored : List AuthoredNode} {loaded : List Prerequisite}
    (h : loadList authored = .ok loaded) : loaded.length ≤ authored.length := by
  induction authored generalizing loaded with
  | nil =>
    obtain rfl := Except.ok.inj h
    exact Nat.le_refl 0
  | cons node rest ih =>
    rw [loadList] at h
    split at h
    · obtain ⟨first, -, h⟩ := Loaded.exists_of_bind_eq_ok h
      obtain ⟨others, hothers, h⟩ := Loaded.exists_of_bind_eq_ok h
      obtain rfl := Except.ok.inj h
      exact Nat.succ_le_succ (ih hothers)
    · exact Nat.le_succ_of_le (ih h)

mutual

/-- Where a tree comes back, every combination in it has nodes. -/
theorem isFull_of_load_save : ∀ {node : Prerequisite}, load (save node) = .ok node → node.IsFull
  | leaf _ _, _ => trivial
  | all text children, h => by
    rw [load_save_all] at h
    split at h
    · cases h
    · next hne =>
      obtain ⟨nodes, hnodes, heq⟩ := Loaded.exists_of_map_eq_ok h
      obtain rfl := (Prerequisite.all.inj heq).2.symm
      refine ⟨?_, isFullList_of_loadList_saveList hnodes⟩
      rintro rfl
      exact hne rfl
  | any text count children, h => by
    rw [load_save_any] at h
    split at h
    · cases h
    · next hne =>
      obtain ⟨nodes, hnodes, heq⟩ := Loaded.exists_of_map_eq_ok h
      obtain rfl := (Prerequisite.any.inj heq).2.2.symm
      refine ⟨?_, isFullList_of_loadList_saveList hnodes⟩
      rintro rfl
      exact hne rfl

theorem isFullList_of_loadList_saveList : ∀ {nodes : List Prerequisite},
    loadList (saveList nodes) = .ok nodes → IsFullList nodes
  | [], _ => trivial
  | node :: rest, h => by
    rw [saveList, loadList] at h
    split at h
    · obtain ⟨first, hfirst, h⟩ := Loaded.exists_of_bind_eq_ok h
      obtain ⟨others, hothers, h⟩ := Loaded.exists_of_bind_eq_ok h
      obtain ⟨hsame, hsames⟩ := List.cons.inj (Except.ok.inj h)
      rw [hsame] at hfirst
      rw [hsames] at hothers
      exact ⟨isFull_of_load_save hfirst, isFullList_of_loadList_saveList hothers⟩
    · -- one node was left out, so that too few are there
      have hlength := length_le_of_loadList h
      rw [saveList_eq_map, List.length_map, List.length_cons] at hlength
      omega

end

/-- A prerequisite comes back from what it is saved as exactly if it is unambiguous. -/
theorem load_save_iff (node : Prerequisite) : load (save node) = .ok node ↔ node.IsUnambiguous := by
  rw [← canonical_iff_isUnambiguous]
  exact ⟨fun h => canonical_of_load h (isFull_of_load_save h), load_save⟩

end Prerequisite

end CharacterSheet
