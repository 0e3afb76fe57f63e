import CharacterSheet.Proofs.Prerequisite.Loaded

/-!
# Which authored nodes load

Not all of a list of nodes is read. A node without a tag is left out with all that is below it, and what
stands below a leaf or below an unknown tag is passed over. The other nodes are reached
(`AuthoredNode.reachedList`), and each of them has to be well formed by itself, whatever is below it.

`loadList_ok_iff_isWellFormed` says that no more is needed: a list loads exactly if every node that is
reached is well formed, with one loaded node for each of them in the places where they stand. If it does
not load, the fault is that of the first node at fault. The nodes below a combination come before the
combination itself, since its number is read after its children.
-/

namespace CharacterSheet

/-! ## Well-formed nodes -/

/-- Whether a text is a requirement for a leaf. -/
def LeafTag.takes : LeafTag → String → Bool
  | .characterLevel, s => (Text.readUInt32 (Text.trim s.toList)).isSome
  | .baseAttackBonus, s => (Text.readInt64 (Text.trim s.toList)).isSome
  | .darkSideScore, s =>
    match Text.trim s.toList with
    | '@' :: _ :: _ => true
    | trimmed => (Text.readInt64 trimmed).isSome
  | .attributeSum, s =>
    match Text.words s.toList with
    | [_, least] => (Text.readInt64 least).isSome
    | _ => false
  | .age, _ | .asset _, _ | .special, _ => true

/-- Whether a field reads as a number. -/
def AuthoredField.isNumber (field : AuthoredField) : Bool :=
  (Text.readUInt32 (Text.trim field.toText.toList)).isSome

namespace AuthoredNode

/-- The tag that a node spells, if it is of the vocabulary. -/
def tag? (node : AuthoredNode) : Option Tag :=
  Tag.ofText? (node.tag.getD "")

/-- Whether a node is what its tag asks for, apart from what is below it. -/
def isWellFormed (node : AuthoredNode) : Bool :=
  match node.tag? with
  | none => true
  | some .all => !node.children.isEmpty
  | some .any => !node.children.isEmpty && node.count.all (·.isNumber)
  | some (.leaf .age) => node.low.all (·.isNumber) && node.high.all (·.isNumber)
  | some (.leaf tag) => node.requirement.any fun s => tag.takes s.toText

/-- Whether the nodes below a node are loaded with it. -/
def isCombination (node : AuthoredNode) : Bool :=
  node.tag? == some .all || node.tag? == some .any

mutual

/-- A node and all that is loaded with it, what is below a node before the node. -/
def reached : AuthoredNode → List AuthoredNode
  | ⟨tag, text, requirement, low, high, count, children⟩ =>
    (if isCombination ⟨tag, text, requirement, low, high, count, children⟩ then
      reachedList children else []) ++
      [⟨tag, text, requirement, low, high, count, children⟩]

/-- The nodes of a list that have a tag, each with all that is loaded with it. -/
def reachedList : List AuthoredNode → List AuthoredNode
  | [] => []
  | node :: rest => if node.isTagged then reached node ++ reachedList rest else reachedList rest

end

end AuthoredNode

/-! ## Faults -/

/-- The fault of a requirement that a leaf does not take. -/
def LeafTag.refusal? (s : String) (tag : LeafTag) : Option AuthoringFault :=
  bif tag.takes s then none
  else match tag with
    | .attributeSum => some (.invalidAttribute s)
    | .darkSideScore => some (.invalidNumber tag.text (String.ofList (Text.trim s.toList)))
    | _ => some (.invalidNumber tag.text s)

/-- The fault of a field that is there and is not a number. -/
def AuthoredField.numberFault? (tag : String) (field : Option AuthoredField) :
    Option AuthoringFault :=
  field.bind fun s => bif s.isNumber then none else some (.invalidNumber tag s.toText)

/-- The fault of the fields of a leaf. The ends of an age range are read in turn. -/
def LeafTag.fault? (requirement low high : Option AuthoredField) : LeafTag → Option AuthoringFault
  | .age => (AuthoredField.numberFault? LeafTag.age.text low).or
      (AuthoredField.numberFault? LeafTag.age.text high)
  | tag => match requirement with
    | none => some (.noRequirement tag.text)
    | some s => tag.refusal? s.toText

/-- The fault of a node by itself. -/
def AuthoredNode.fault? (node : AuthoredNode) : Option AuthoringFault :=
  match node.tag? with
  | none => none
  | some .all => if node.children.isEmpty then some (.noChildren Tag.all.text) else none
  | some .any =>
    if node.children.isEmpty then some (.noChildren Tag.any.text)
    else AuthoredField.numberFault? Tag.any.text node.count
  | some (.leaf tag) => tag.fault? node.requirement node.low node.high

theorem LeafTag.refusal?_eq_none_iff {tag : LeafTag} {s : String} :
    tag.refusal? s = none ↔ tag.takes s = true := by
  unfold refusal?
  cases tag.takes s with
  | true => simp
  | false => cases tag <;> simp

theorem AuthoredField.numberFault?_eq_none_iff {tag : String} {field : Option AuthoredField} :
    numberFault? tag field = none ↔ field.all (·.isNumber) = true := by
  cases field with
  | none => simp [numberFault?]
  | some s => cases h : s.isNumber <;> simp [numberFault?, h]

/-- A node has a fault exactly if it is not well formed. -/
theorem AuthoredNode.fault?_eq_none_iff {node : AuthoredNode} :
    node.fault? = none ↔ node.isWellFormed = true := by
  unfold fault? isWellFormed
  cases node.tag? with
  | none => simp
  | some tag =>
    cases tag with
    | all => simp
    | any =>
      cases node.children.isEmpty <;> simp [AuthoredField.numberFault?_eq_none_iff]
    | leaf tag =>
      cases tag with
      | age => simp [LeafTag.fault?, AuthoredField.numberFault?_eq_none_iff]
      | _ =>
        cases node.requirement <;> simp [LeafTag.fault?, LeafTag.refusal?_eq_none_iff]

/-! ## Outlines -/

/-- What a loaded node and the authored one have in common: kind, text, and the nodes below. -/
inductive Outline where
  | node (tag : Option Tag) (text : String) (below : List Outline)

mutual

/-- The nodes that are reached below an authored node, in their places. -/
def AuthoredNode.outline : AuthoredNode → Outline
  | ⟨tag, text, requirement, low, high, count, children⟩ =>
    .node (tag? ⟨tag, text, requirement, low, high, count, children⟩) text
      (if isCombination ⟨tag, text, requirement, low, high, count, children⟩ then
        outlineList children else [])

/-- The same of the nodes of a list that have a tag. -/
def AuthoredNode.outlineList : List AuthoredNode → List Outline
  | [] => []
  | node :: rest => if node.isTagged then outline node :: outlineList rest else outlineList rest

end

mutual

/-- The nodes below a loaded node, in their places. -/
def Prerequisite.outline : Prerequisite → Outline
  | .leaf text condition => .node (condition.leafTag?.map .leaf) text []
  | .all text children => .node (some .all) text (outlineList children)
  | .any text _ children => .node (some .any) text (outlineList children)

/-- The same of a list. -/
def Prerequisite.outlineList : List Prerequisite → List Outline
  | [] => []
  | node :: rest => outline node :: outlineList rest

end

namespace AuthoredNode

variable {node : AuthoredNode}

/-- What is below a leaf or below an unknown tag is passed over. -/
theorem reached_and_outline_of_not_isCombination (h : node.isCombination = false) :
    node.reached = [node] ∧ node.outline = .node node.tag? node.text [] := by
  obtain ⟨tag, text, requirement, low, high, count, children⟩ := node
  rw [reached, outline, h]
  exact ⟨rfl, rfl⟩

theorem reached_and_outline_of_isCombination (h : node.isCombination = true) :
    node.reached = reachedList node.children ++ [node] ∧
      node.outline = .node node.tag? node.text (outlineList node.children) := by
  obtain ⟨tag, text, requirement, low, high, count, children⟩ := node
  rw [reached, outline, h]
  exact ⟨rfl, rfl⟩

end AuthoredNode

/-! ## What loading gives -/

/-- There is a fault, and it is this one, or there is none and what is loaded is so. -/
def Loaded.Meets {α : Type} (x : Loaded α) (fault? : Option AuthoringFault) (P : α → Prop) : Prop :=
  match x with
  | .ok a => fault? = none ∧ P a
  | .error fault => fault? = some fault

namespace Loaded.Meets

variable {α β : Type} {x : Loaded α} {fault? later? : Option AuthoringFault} {P : α → Prop}
  {Q : β → Prop}

theorem map {f : α → β} (h : x.Meets fault? P) (hf : ∀ a, P a → Q (f a)) :
    Loaded.Meets (x.map f) fault? Q := by
  cases x with
  | error fault => exact h
  | ok a => exact ⟨h.1, hf a h.2⟩

/-- What comes later only shows if nothing is at fault before. -/
theorem bind {f : α → Loaded β} (h : x.Meets fault? P) (hf : ∀ a, P a → (f a).Meets later? Q) :
    Loaded.Meets (x >>= f) (fault?.or later?) Q := by
  cases x with
  | error fault =>
    obtain rfl : fault? = some fault := h
    exact rfl
  | ok a =>
    obtain ⟨rfl, ha⟩ := h
    exact hf a ha

theorem bind_pure {f : α → β} (h : x.Meets fault? P) (hf : ∀ a, P a → Q (f a)) :
    Loaded.Meets (x >>= fun a => pure (f a)) fault? Q := by
  cases x with
  | error fault => exact h
  | ok a => exact ⟨h.1, hf a h.2⟩

end Loaded.Meets

/-! ## Requirements -/

theorem readNumber_meets {α : Type} (tag : String) (read : List Char → Option α) (s : String) :
    (readNumber tag read s).Meets
      (bif (read (Text.trim s.toList)).isSome then none else some (.invalidNumber tag s))
      fun _ => True := by
  unfold readNumber
  cases read (Text.trim s.toList) with
  | none => exact rfl
  | some n => exact ⟨rfl, trivial⟩

theorem Threshold.ofText_meets (s : String) :
    (ofText LeafTag.darkSideScore.text s).Meets (LeafTag.darkSideScore.refusal? s)
      fun _ => True := by
  simp only [ofText, LeafTag.refusal?, LeafTag.takes]
  generalize Text.trim s.toList = trimmed
  split
  · next n hread =>
    split
    · exact ⟨rfl, trivial⟩
    · rw [hread]
      exact ⟨rfl, trivial⟩
  · split <;> exact ⟨rfl, trivial⟩
  · next hreference hread =>
    split
    · exact absurd rfl (hreference _ _)
    · rw [hread]
      exact rfl

theorem Condition.attributeOfText_meets (s : String) :
    (attributeOfText s).Meets (LeafTag.attributeSum.refusal? s)
      fun condition => condition.leafTag? = some .attributeSum := by
  simp only [attributeOfText, LeafTag.refusal?, LeafTag.takes]
  match Text.words s.toList with
  | [key, least] =>
    dsimp only
    cases Text.readInt64 least with
    | none => exact rfl
    | some n => exact ⟨rfl, rfl⟩
  | [] | [_] | _ :: _ :: _ :: _ => exact rfl

theorem Condition.ofText_meets (s : String) {tag : LeafTag} (htag : tag ≠ .age) :
    (ofText s tag).Meets (tag.refusal? s) fun condition => condition.leafTag? = some tag := by
  cases tag with
  | age => exact absurd rfl htag
  | characterLevel => exact (readNumber_meets _ _ s).map fun _ _ => rfl
  | baseAttackBonus => exact (readNumber_meets _ _ s).map fun _ _ => rfl
  | darkSideScore => exact (Threshold.ofText_meets s).map fun _ _ => rfl
  | attributeSum => exact attributeOfText_meets s
  | special => exact ⟨rfl, rfl⟩
  | asset kind =>
    cases kind with
    | technique =>
      refine ⟨rfl, ?_⟩
      rw [techniqueOfText]
      split <;> rfl
    | _ => exact ⟨rfl, rfl⟩

theorem Condition.ageEnd_meets (field : Option AuthoredField) :
    (ageEnd field).Meets (AuthoredField.numberFault? LeafTag.age.text field) fun _ => True := by
  cases field with
  | none => exact ⟨rfl, trivial⟩
  | some s => exact (readNumber_meets _ _ s.toText).map fun _ _ => trivial

theorem Condition.ofFields_meets (requirement low high : Option AuthoredField) (tag : LeafTag) :
    (ofFields requirement low high tag).Meets (tag.fault? requirement low high)
      fun condition => condition.leafTag? = some tag := by
  by_cases htag : tag = .age
  · subst htag
    refine (ageEnd_meets low).bind fun low _ => ?_
    exact (ageEnd_meets high).bind_pure fun high _ => rfl
  · cases requirement with
    | none =>
      rw [ofFields.eq_2 _ _ _ htag, LeafTag.fault?.eq_2 _ _ _ htag]
      exact rfl
    | some s =>
      rw [ofFields.eq_3 _ _ _ _ htag, LeafTag.fault?.eq_3 _ _ _ _ htag]
      exact ofText_meets s.toText htag

theorem AuthoredNode.readCount_meets (count : Option AuthoredField) :
    (readCount count).Meets (AuthoredField.numberFault? Tag.any.text count) fun _ => True := by
  cases count with
  | none => exact ⟨rfl, trivial⟩
  | some s => exact readNumber_meets _ _ s.toText

/-! ## Nodes -/

namespace Prerequisite

variable {node : AuthoredNode}

/-- A node that is no combination is loaded by itself. -/
theorem load_meets_of_not_isCombination (h : node.isCombination = false) :
    (load node).Meets node.fault? fun loaded => loaded.outline = .node node.tag? node.text [] := by
  obtain ⟨tag, text, requirement, low, high, count, children⟩ := node
  simp only [AuthoredNode.isCombination, AuthoredNode.tag?, AuthoredNode.fault?] at h ⊢
  rw [load]
  split
  · next hunknown =>
    rw [hunknown]
    exact ⟨rfl, rfl⟩
  · next leafTag hleaf =>
    rw [hleaf]
    refine (Condition.ofFields_meets requirement low high leafTag).map fun condition hcondition => ?_
    rw [outline, hcondition]
    rfl
  · next hall =>
    rw [hall] at h
    cases h
  · next hany =>
    rw [hany] at h
    cases h

/-- A combination is loaded with its children, and they come before it. -/
theorem load_meets_of_isCombination (h : node.isCombination = true)
    {fault? : Option AuthoringFault} {below : List Outline}
    (hchildren : (loadList node.children).Meets fault? fun loaded => outlineList loaded = below) :
    (load node).Meets (fault?.or node.fault?)
      fun loaded => loaded.outline = .node node.tag? node.text below := by
  obtain ⟨tag, text, requirement, low, high, count, children⟩ := node
  simp only [AuthoredNode.isCombination, AuthoredNode.tag?, AuthoredNode.fault?] at h hchildren ⊢
  rw [load]
  split
  · next hunknown =>
    rw [hunknown] at h
    cases h
  · next leafTag hleaf =>
    rw [hleaf] at h
    cases h
  · next hall =>
    rw [hall]
    cases children with
    | nil =>
      obtain ⟨rfl, -⟩ := hchildren
      exact rfl
    | cons child rest =>
      show Loaded.Meets _ (fault?.or none) _
      rw [Option.or_none]
      refine hchildren.map fun loaded hloaded => ?_
      rw [outline, hloaded]
  · next hany =>
    rw [hany]
    cases children with
    | nil =>
      obtain ⟨rfl, -⟩ := hchildren
      exact rfl
    | cons child rest =>
      refine hchildren.bind fun loaded hloaded => ?_
      refine (AuthoredNode.readCount_meets count).bind_pure fun least _ => ?_
      rw [outline, hloaded]

mutual

/-- Loading finds the first fault of what is reached with a node, and otherwise the same outline. -/
theorem load_meets : (node : AuthoredNode) →
    (load node).Meets (node.reached.findSome? AuthoredNode.fault?)
      fun loaded => loaded.outline = node.outline
  | ⟨tag, text, requirement, low, high, count, children⟩ => by
    have hchildren := loadList_meets children
    cases h : AuthoredNode.isCombination ⟨tag, text, requirement, low, high, count, children⟩ with
    | false =>
      obtain ⟨hreached, houtline⟩ := AuthoredNode.reached_and_outline_of_not_isCombination h
      rw [hreached, houtline, List.findSome?_singleton]
      exact load_meets_of_not_isCombination h
    | true =>
      obtain ⟨hreached, houtline⟩ := AuthoredNode.reached_and_outline_of_isCombination h
      rw [hreached, houtline, List.findSome?_append, List.findSome?_singleton]
      exact load_meets_of_isCombination h hchildren

/-- The same of a list, out of which the nodes without a tag are left. -/
theorem loadList_meets : (nodes : List AuthoredNode) →
    (loadList nodes).Meets ((AuthoredNode.reachedList nodes).findSome? AuthoredNode.fault?)
      fun loaded => outlineList loaded = AuthoredNode.outlineList nodes
  | [] => ⟨rfl, rfl⟩
  | node :: rest => by
    rw [loadList, AuthoredNode.reachedList, AuthoredNode.outlineList]
    split
    · rw [List.findSome?_append]
      refine (load_meets node).bind fun first hfirst => ?_
      refine (loadList_meets rest).bind_pure fun others hothers => ?_
      rw [outlineList, hfirst, hothers]
    · exact loadList_meets rest

end

theorem findSome?_fault?_eq_none_iff {nodes : List AuthoredNode} :
    nodes.findSome? AuthoredNode.fault? = none ↔ ∀ node ∈ nodes, node.isWellFormed = true := by
  simp only [List.findSome?_eq_none_iff, AuthoredNode.fault?_eq_none_iff]

theorem findSome?_fault?_eq_some_iff {nodes : List AuthoredNode} {fault : AuthoringFault} :
    nodes.findSome? AuthoredNode.fault? = some fault ↔
      ∃ earlier node later, nodes = earlier ++ node :: later ∧
        (∀ other ∈ earlier, other.isWellFormed = true) ∧
        node.isWellFormed = false ∧ node.fault? = some fault := by
  rw [List.findSome?_eq_some_iff]
  constructor
  · rintro ⟨earlier, node, later, hnodes, hfault, hearlier⟩
    refine ⟨earlier, node, later, hnodes, fun other hother => ?_, ?_, hfault⟩
    · exact AuthoredNode.fault?_eq_none_iff.mp (hearlier other hother)
    · rw [← Bool.not_eq_true, ← AuthoredNode.fault?_eq_none_iff, hfault]
      exact Option.some_ne_none fault
  · rintro ⟨earlier, node, later, hnodes, hearlier, -, hfault⟩
    refine ⟨earlier, node, later, hnodes, hfault, fun other hother => ?_⟩
    exact AuthoredNode.fault?_eq_none_iff.mpr (hearlier other hother)

/-- A list loads exactly if all that is reached of it is well formed. What is loaded then stands where it
was authored, with the same kinds and texts, and otherwise the first node at fault decides the fault. -/
theorem loadList_ok_iff_isWellFormed (nodes : List AuthoredNode) :
    ((∃ loaded, loadList nodes = .ok loaded) ↔
        ∀ node ∈ AuthoredNode.reachedList nodes, node.isWellFormed = true) ∧
      (∀ loaded, loadList nodes = .ok loaded →
        outlineList loaded = AuthoredNode.outlineList nodes) ∧
      ∀ fault, loadList nodes = .error fault ↔
        ∃ earlier node later, AuthoredNode.reachedList nodes = earlier ++ node :: later ∧
          (∀ other ∈ earlier, other.isWellFormed = true) ∧
          node.isWellFormed = false ∧ node.fault? = some fault := by
  have hmeets := loadList_meets nodes
  rw [← findSome?_fault?_eq_none_iff]
  simp only [← findSome?_fault?_eq_some_iff]
  cases hload : loadList nodes with
  | ok loaded =>
    rw [hload] at hmeets
    obtain ⟨hnone, houtline⟩ := hmeets
    rw [hnone]
    refine ⟨iff_of_true ⟨loaded, rfl⟩ rfl, ?_, fun fault => ?_⟩
    · rintro _ ⟨⟩
      exact houtline
    · simp
  | error fault =>
    rw [hload] at hmeets
    have hsome : (AuthoredNode.reachedList nodes).findSome? AuthoredNode.fault? = some fault := hmeets
    rw [hsome]
    simp

/-- A fault below an `OR` comes before that of its number, and nothing below an unknown tag is read. -/
example : loadList [
      { tag := some "Reputation", children := [{ tag := some "AND" }] },
      { tag := some " or", count := some (.text "two"), children := [{}, { tag := some "feat" }] }] =
    .error (.noRequirement "FEAT") := by
  rfl

end Prerequisite

end CharacterSheet
