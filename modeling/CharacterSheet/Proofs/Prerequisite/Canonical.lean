import CharacterSheet.Prerequisite.Load
import CharacterSheet.Prerequisite.Save
import CharacterSheet.Proofs.Text.Words

/-!
# Canonical prerequisites

A condition is saved as the text of its requirement, and loading reads that text again. Numbers and
the fixed rules always come back. A condition that holds free text does so only if the text does not
read as something else: it is `Canonical`. A combination needs a node below it besides, and loading
leaves out nodes with a blank tag.

`load_save` says that a canonical prerequisite comes back from what it is saved as.
-/

namespace CharacterSheet

/-! ## Numbers -/

theorem readNumber_natural (tag : String) (n : UInt32) :
    readNumber tag Text.readUInt32 (Text.natural n.toNat) = .ok n := by
  rw [readNumber, Text.natural, String.toList_ofList, Text.trim_writeNatural,
    Text.readUInt32_writeNatural]

theorem readNumber_integer (tag : String) (n : Int64) :
    readNumber tag Text.readInt64 (Text.integer n.toInt) = .ok n := by
  rw [readNumber, Text.integer, String.toList_ofList, Text.trim_writeInteger,
    Text.readInt64_writeInteger]

/-- A number that is saved as a number has the text of one. -/
theorem AuthoredField.toText_ofUInt32 (n : UInt32) : (ofUInt32 n).toText = Text.natural n.toNat := by
  have hn := n.toNat_lt
  have hfits : (Int64.ofNat n.toNat).toInt = n.toNat := Int64.toInt_ofNat_of_lt (by omega)
  rw [ofUInt32, toText, hfits]
  rfl

theorem readNumber_ofUInt32 (tag : String) (n : UInt32) :
    readNumber tag Text.readUInt32 (AuthoredField.ofUInt32 n).toText = .ok n := by
  rw [AuthoredField.toText_ofUInt32, readNumber_natural]

/-! ## Thresholds -/

/-- A key that can stand behind an `@`: there is one, no blank ends it, and it names no ability
total. -/
def Threshold.Canonical : Threshold → Prop
  | .attributeSum key =>
    key ≠ "" ∧ (∀ c ∈ key.toList.getLast?, Text.isBlank c = false) ∧ Ability.ofTotal? key = none
  | .fixed _ | .abilityScore _ => True

/-- A reference is no number. -/
theorem Text.readInt64_at (s : List Char) : readInt64 ('@' :: s) = none := by
  rw [readInt64, readInteger, readNatural, readDigits, if_neg (by simp)]
  · rfl
  all_goals
    intro t h
    cases h

/-- The total of an ability is found by its name. -/
theorem Ability.ofTotal?_total (ability : Ability) :
    ofTotal? (ability.abbreviation ++ "TOTAL") = some ability := by
  cases ability <;> decide +kernel

/-- Behind an `@` stands an ability total or else an attribute key. -/
theorem Threshold.ofText_reference (tag : String) {key : String} (hne : key ≠ "")
    (hlast : ∀ c ∈ key.toList.getLast?, Text.isBlank c = false) :
    ofText tag ("@" ++ key) =
      .ok ((Ability.ofTotal? key).elim (.attributeSum key) .abilityScore) := by
  obtain ⟨c, cs, hkey⟩ := List.exists_cons_of_ne_nil (mt String.toList_eq_nil_iff.mp hne)
  have htext : ("@" ++ key).toList = '@' :: c :: cs := by rw [String.toList_append, hkey]; rfl
  have hat : ∀ d ∈ ('@' :: c :: cs).head?, Text.isBlank d = false := by
    rintro d ⟨⟩
    decide
  have htrim : Text.trim ('@' :: c :: cs) = '@' :: c :: cs := by
    rw [hkey] at hlast
    exact Text.trim_eq_self hat (by simpa [List.getLast?_cons_cons] using hlast)
  have hback : String.ofList (c :: cs) = key := by rw [← hkey, String.ofList_toList]
  cases htotal : Ability.ofTotal? key with
  | none => simp only [ofText, htext, htrim, Text.readInt64_at, hback, htotal, Option.elim_none]
  | some ability =>
    simp only [ofText, htext, htrim, Text.readInt64_at, hback, htotal, Option.elim_some]

theorem Threshold.ofText_toText (tag : String) {least : Threshold} (h : least.Canonical) :
    ofText tag least.toText = .ok least := by
  cases least with
  | fixed n =>
    have htrim := Text.trim_writeInteger n.toInt
    simp only [toText, ofText, Text.integer, String.toList_ofList, htrim,
      Text.readInt64_writeInteger]
  | attributeSum key =>
    obtain ⟨hne, hlast, htotal⟩ := h
    rw [toText, ofText_reference tag hne hlast, htotal, Option.elim_none]
  | abilityScore ability =>
    have hend : (ability.abbreviation ++ "TOTAL").toList.getLast? = some 'L' := by
      cases ability <;> decide +kernel
    have hne : ability.abbreviation ++ "TOTAL" ≠ "" := by
      intro h
      rw [h] at hend
      cases hend
    have hlast : ∀ c ∈ (ability.abbreviation ++ "TOTAL").toList.getLast?,
        Text.isBlank c = false := by
      rw [hend]
      rintro c ⟨⟩
      decide
    rw [toText, String.append_assoc, ofText_reference tag hne hlast, Ability.ofTotal?_total,
      Option.elim_some]

/-! ## Conditions -/

/-- A condition whose text reads as the condition. -/
def Condition.Canonical : Condition → Prop
  | .darkSideScore least => least.Canonical
  | .asset .technique name => Text.readUInt32 (Text.trim name.toList) = none
  | .attributeSum key _ => key ≠ "" ∧ ∀ c ∈ key.toList, Text.isBlank c = false
  | .special rule => Special.ofText rule.toText = rule
  | .unsupported tag _ => Tag.ofText? tag = none
  | .age _ _ | .characterLevel _ | .baseAttackBonus _ | .asset _ _ | .techniqueCount _ => True

theorem Condition.attributeOfText_append {key : String} (least : Int64) (hne : key ≠ "")
    (h : ∀ c ∈ key.toList, Text.isBlank c = false) :
    attributeOfText (key ++ " " ++ Text.integer least.toInt) = .ok (.attributeSum key least) := by
  have hwords := Text.words_append_space (mt String.toList_eq_nil_iff.mp hne)
    (Text.writeInteger_ne_nil least.toInt) h fun _ => Text.isBlank_of_mem_writeInteger
  have htext : (key ++ " " ++ Text.integer least.toInt).toList =
      key.toList ++ ' ' :: Text.writeInteger least.toInt := by
    simp [Text.integer, String.toList_append]
  rw [attributeOfText, htext, hwords]
  simp only [Text.readInt64_writeInteger, String.ofList_toList]

theorem Condition.ageEnd_ofUInt32 (n : UInt32) :
    ageEnd (some (AuthoredField.ofUInt32 n)) = .ok (some n) := by
  rw [ageEnd, readNumber_ofUInt32]
  rfl

/-- The tag of a condition, if it is of the vocabulary. -/
def Condition.leafTag? : Condition → Option LeafTag
  | .age _ _ => some .age
  | .characterLevel _ => some .characterLevel
  | .baseAttackBonus _ => some .baseAttackBonus
  | .darkSideScore _ => some .darkSideScore
  | .asset kind _ => some (.asset kind)
  | .techniqueCount _ => some (.asset .technique)
  | .attributeSum _ _ => some .attributeSum
  | .special _ => some .special
  | .unsupported _ _ => none

theorem Condition.tagText_of_leafTag? {condition : Condition} {tag : LeafTag}
    (h : condition.leafTag? = some tag) : condition.tagText = tag.text := by
  cases condition <;> cases h <;> rfl

/-- Only an age range is saved in other fields than the requirement. -/
theorem Condition.ofFields_of_requirement {condition : Condition} {tag : LeafTag} {text : String}
    (htag : condition.leafTag? = some tag) (htext : condition.requirement = some text) :
    ofFields (condition.requirement.map .text) condition.ageEnds.1 condition.ageEnds.2 tag =
      ofText text tag := by
  rw [htext]
  cases condition with
  | age low high => cases htext
  | _ =>
    cases htag
    all_goals rfl

/-- A canonical condition is read from the fields that it is saved in. -/
theorem Condition.ofFields_save {condition : Condition} {tag : LeafTag} (h : condition.Canonical)
    (htag : condition.leafTag? = some tag) :
    ofFields (condition.requirement.map .text) condition.ageEnds.1 condition.ageEnds.2 tag =
      .ok condition := by
  cases condition with
  | age low high =>
    cases htag
    rw [ofFields, ageEnds, ageEnd_ofUInt32]
    cases high with
    | none => rfl
    | some high =>
      rw [Option.map_some, ageEnd_ofUInt32]
      rfl
  | characterLevel least =>
    rw [ofFields_of_requirement htag rfl]
    cases htag
    rw [ofText, readNumber_natural]
    rfl
  | baseAttackBonus least =>
    rw [ofFields_of_requirement htag rfl]
    cases htag
    rw [ofText, readNumber_integer]
    rfl
  | darkSideScore least =>
    rw [ofFields_of_requirement htag rfl]
    cases htag
    rw [ofText, Threshold.ofText_toText _ h]
    rfl
  | asset kind name =>
    rw [ofFields_of_requirement htag rfl]
    cases htag
    cases kind with
    | technique =>
      have hname : Text.readUInt32 (Text.trim name.toList) = none := h
      rw [ofText, techniqueOfText, hname]
    | _ => rfl
  | techniqueCount least =>
    rw [ofFields_of_requirement htag rfl]
    cases htag
    rw [ofText, techniqueOfText, Text.natural, String.toList_ofList, Text.trim_writeNatural,
      Text.readUInt32_writeNatural]
  | attributeSum key least =>
    obtain ⟨hne, hblank⟩ := h
    rw [ofFields_of_requirement htag rfl]
    cases htag
    rw [ofText, attributeOfText_append least hne hblank]
  | special rule =>
    have hrule : Special.ofText rule.toText = rule := h
    rw [ofFields_of_requirement htag rfl]
    cases htag
    rw [ofText, hrule]
  | unsupported tag requirement => cases htag

namespace Prerequisite

/-! ## Trees -/

mutual

/-- Every condition comes back from its text, and every combination has nodes below it. -/
def Canonical : Prerequisite → Prop
  | leaf _ condition => condition.Canonical
  | all _ children | any _ _ children => children ≠ [] ∧ CanonicalList children

/-- Nodes that a list may hold: canonical ones with a tag that is not blank. -/
def CanonicalList : List Prerequisite → Prop
  | [] => True
  | node :: rest => (Text.isBlankText node.tagText = false ∧ node.Canonical) ∧ CanonicalList rest

end

theorem load_save_leaf (text : String) {condition : Condition} (h : condition.Canonical) :
    load (save (leaf text condition)) = .ok (leaf text condition) := by
  cases hleaf : condition.leafTag? with
  | none =>
    cases condition with
    | unsupported tag requirement =>
      have htag : Tag.ofText? tag = none := h
      rw [save, load]
      simp only [Condition.tagText, Option.getD_some, htag, Condition.requirement]
      cases requirement <;> rfl
    | _ => cases hleaf
  | some tag =>
    have hfields := Condition.ofFields_save h hleaf
    have htag : Tag.ofText? condition.tagText = some (.leaf tag) := by
      rw [Condition.tagText_of_leafTag? hleaf]
      exact Tag.ofText?_text (.leaf tag)
    rw [save, load]
    simp only [Option.getD_some, htag, hfields]
    rfl

/-- What a combination of all is saved as is loaded by its children. -/
@[simp] theorem load_save_all (text : String) (children : List Prerequisite) :
    load (save (all text children)) =
      if (saveList children).isEmpty then .error (.noChildren Tag.all.text)
      else (loadList (saveList children)).map (all text) := by
  rw [save, load]
  simp

/-- What a combination of some is saved as is loaded by its children; the count comes back. -/
@[simp] theorem load_save_any (text : String) (count : UInt32) (children : List Prerequisite) :
    load (save (any text count children)) =
      if (saveList children).isEmpty then .error (.noChildren Tag.any.text)
      else (loadList (saveList children)).map (any text count) := by
  rw [save, load]
  simp only [Option.getD_some, Tag.ofText?_text, AuthoredNode.readCount,
    readNumber_ofUInt32 Tag.any.text count]
  rfl

theorem isEmpty_saveList {nodes : List Prerequisite} (h : nodes ≠ []) :
    (saveList nodes).isEmpty = false := by
  rw [saveList_eq_map, List.isEmpty_map]
  exact List.isEmpty_eq_false_iff.mpr h

theorem isTagged_save {node : Prerequisite} (h : Text.isBlankText node.tagText = false) :
    node.save.isTagged = true := by
  have htag : node.save.tag = some node.tagText := by cases node <;> rfl
  rw [AuthoredNode.isTagged, htag, Bool.not_eq_true']
  exact h

mutual

/-- A canonical prerequisite comes back from what it is saved as. -/
theorem load_save : ∀ {node : Prerequisite}, node.Canonical → load (save node) = .ok node
  | leaf text condition, h => load_save_leaf text h
  | all text children, h => by
    rw [Canonical] at h
    obtain ⟨hne, hchildren⟩ := h
    simp [isEmpty_saveList hne, loadList_saveList hchildren, Except.map]
  | any text count children, h => by
    rw [Canonical] at h
    obtain ⟨hne, hchildren⟩ := h
    simp [isEmpty_saveList hne, loadList_saveList hchildren, Except.map]

theorem loadList_saveList : ∀ {nodes : List Prerequisite}, CanonicalList nodes →
    loadList (saveList nodes) = .ok nodes
  | [], _ => rfl
  | node :: rest, h => by
    rw [CanonicalList] at h
    obtain ⟨⟨htag, hnode⟩, hrest⟩ := h
    rw [saveList, loadList, if_pos (isTagged_save htag), load_save hnode, loadList_saveList hrest]
    rfl

end

end Prerequisite

end CharacterSheet
