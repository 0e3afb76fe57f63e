import CharacterSheet.Proofs.Prerequisite.Authored
import CharacterSheet.Proofs.Prerequisite.Loaded

/-!
# Saved prerequisites load again

The prerequisites of an accepted text are saved as a list of nodes. With every combination above one
node or more, that list loads as just these prerequisites again, whatever spelling, numbers, free
texts and untagged nodes the accepted text had (`listOfText_listToText`).

There is one limit. A text nests at most 127 deep, and each combination takes two of it, one for its
object and one for its list. A node that stands alone has room for 63 combinations one below the
other, a node in a list for 62. So the deepest node that can be authored alone is saved as a text
that cannot be read.
-/

namespace CharacterSheet

namespace Prerequisite

/-! ## Nesting of what is saved -/

theorem listToJson_saveList (nodes : List Prerequisite) :
    Json.list toJson nodes = Json.list AuthoredNode.toJson (saveList nodes) := by
  rw [Json.list, Json.list, saveList_eq_map, List.map_map]
  rfl

theorem depth_toJson_of_saveList {node : AuthoredNode} {children : List Prerequisite}
    (hsaved : node.children = saveList children) (hne : children ≠ []) :
    node.toJson.depth = Json.depthList ((saveList children).map AuthoredNode.toJson) + 2 := by
  have hchildren : node.children ≠ [] := by
    rw [hsaved, saveList_eq_map]
    exact mt List.map_eq_nil_iff.mp hne
  rw [AuthoredNode.depth_toJson_of_children_ne_nil hchildren, hsaved]

mutual

/-- A combination nests its nodes two deeper, a leaf is one object. -/
theorem depth_toJson : ∀ {node : Prerequisite}, node.IsFull →
    node.toJson.depth = 2 * node.height + 1
  | leaf text condition, _ => by
    rw [toJson, height]
    exact AuthoredNode.depth_toJson_of_children_eq_nil rfl
  | all text children, hfull => by
    obtain ⟨hne, hchildren⟩ := hfull
    rw [toJson, depth_toJson_of_saveList (by rw [save]) hne, depthList_saveList hne hchildren,
      height]
    omega
  | any text count children, hfull => by
    obtain ⟨hne, hchildren⟩ := hfull
    rw [toJson, depth_toJson_of_saveList (by rw [save]) hne, depthList_saveList hne hchildren,
      height]
    omega

theorem depthList_saveList : ∀ {nodes : List Prerequisite}, nodes ≠ [] → IsFullList nodes →
    Json.depthList ((saveList nodes).map AuthoredNode.toJson) = 2 * heightList nodes + 1
  | [], hne, _ => absurd rfl hne
  | [node], _, hfull => by
    have hnode := depth_toJson hfull.1
    rw [toJson] at hnode
    simp only [saveList, List.map_cons, List.map_nil, Json.depthList, heightList, hnode]
    omega
  | node :: next :: rest, _, hfull => by
    have hnode := depth_toJson hfull.1
    have hrest := depthList_saveList (List.cons_ne_nil next rest) hfull.2
    rw [toJson] at hnode
    rw [saveList, List.map_cons, Json.depthList, hnode, hrest, heightList.eq_2 node]
    omega

end

/-! ## Reading what was written -/

theorem listOfText_render {j : Json} (h : j.IsPlain) :
    listOfText j.render =
      if j.depth ≤ Json.maxNesting then listOfContent j else .error .unreadable := by
  rw [listOfText, Json.read_render h]
  by_cases hdepth : j.depth ≤ Json.maxNesting
  · rw [if_pos hdepth, if_pos hdepth]
  · rw [if_neg hdepth, if_neg hdepth]

theorem listOfContent_toJson (node : AuthoredNode) :
    listOfContent node.toJson = (loadList [node]).mapError .authoring := by
  rw [listOfContent, AuthoredNode.ofJsonOneOrMany, AuthoredNode.ofJson_toJson]

/-- A list is read as it was written, except for an empty one: that is a node without any field, which
is left out for having no tag. -/
theorem exists_ofJsonOneOrMany_list (nodes : List AuthoredNode) :
    ∃ read, AuthoredNode.ofJsonOneOrMany (Json.list AuthoredNode.toJson nodes) = .ok read ∧
      loadList read = loadList nodes := by
  cases nodes with
  | nil =>
    have hempty : AuthoredNode.ofJson (.array []) = .ok {} := by
      rw [AuthoredNode.ofJson_eq]
      rfl
    refine ⟨[{}], ?_, rfl⟩
    rw [AuthoredNode.ofJsonOneOrMany, Json.list, List.map_nil, hempty]
  | cons node rest => exact ⟨node :: rest, AuthoredNode.ofJsonOneOrMany_list node rest, rfl⟩

theorem listOfContent_list (nodes : List AuthoredNode) :
    listOfContent (Json.list AuthoredNode.toJson nodes) = (loadList nodes).mapError .authoring := by
  obtain ⟨read, hread, hload⟩ := exists_ofJsonOneOrMany_list nodes
  rw [listOfContent, hread, ← hload]

theorem isPlain_list (nodes : List AuthoredNode) :
    (Json.list AuthoredNode.toJson nodes).IsPlain := by
  refine .array fun j hj => ?_
  obtain ⟨node, -, rfl⟩ := List.mem_map.mp hj
  exact node.isPlain_toJson

/-- An accepted text holds authored nodes that load. -/
theorem exists_loadList_of_listOfText {text : String} {nodes : List Prerequisite}
    (h : listOfText text = .ok nodes) : ∃ authored, loadList authored = .ok nodes := by
  rw [listOfText] at h
  split at h
  · cases h
  · rw [listOfContent] at h
    split at h
    · cases h
    · next authored _ =>
      refine ⟨authored, ?_⟩
      cases hload : loadList authored with
      | error fault =>
        rw [hload] at h
        cases h
      | ok loaded =>
        rw [hload] at h
        rw [Except.ok.inj h]

/-! ## The whole way -/

mutual

theorem isFull_of_canonical : ∀ {node : Prerequisite}, node.Canonical → node.IsFull
  | leaf _ _, _ => trivial
  | all _ _, h => ⟨h.1, isFullList_of_canonicalList h.2⟩
  | any _ _ _, h => ⟨h.1, isFullList_of_canonicalList h.2⟩

theorem isFullList_of_canonicalList : ∀ {nodes : List Prerequisite}, CanonicalList nodes →
    IsFullList nodes
  | [], _ => trivial
  | _ :: _, h => ⟨isFull_of_canonical h.1.2, isFullList_of_canonicalList h.2⟩

end

/-- Canonical nodes are read from the text of their list, up to 62 combinations one below the
other. -/
theorem listOfText_listToText_of_canonicalList {nodes : List Prerequisite}
    (h : CanonicalList nodes) :
    listOfText (listToText nodes) =
      if heightList nodes ≤ 62 then .ok nodes else .error .unreadable := by
  have hcontent : listOfContent (Json.list AuthoredNode.toJson (saveList nodes)) = .ok nodes := by
    rw [listOfContent_list, loadList_saveList h]
    rfl
  have hdepth : (Json.list AuthoredNode.toJson (saveList nodes)).depth ≤ Json.maxNesting ↔
      heightList nodes ≤ 62 := by
    rw [Json.list, Json.depth, Json.maxNesting]
    cases nodes with
    | nil => simp [saveList, Json.depthList, heightList]
    | cons node rest =>
      rw [depthList_saveList (List.cons_ne_nil node rest) (isFullList_of_canonicalList h)]
      omega
  rw [listToText, listToJson_saveList, listOfText_render (isPlain_list _), hcontent]
  simp only [hdepth]

/-- What loads from a text, is saved and is loaded again, is the same, as long as no combination is
without nodes; beyond 62 combinations one below the other the saved text cannot be read. -/
theorem listOfText_listToText {text : String} {nodes : List Prerequisite}
    (h : listOfText text = .ok nodes) (hfull : IsFullList nodes) :
    listOfText (listToText nodes) =
      if heightList nodes ≤ 62 then .ok nodes else .error .unreadable := by
  obtain ⟨authored, hauthored⟩ := exists_loadList_of_listOfText h
  have hcanonical := canonicalList_of_loadList hauthored hfull
  exact listOfText_listToText_of_canonicalList hcanonical

/-- Authored nodes as content may have them: blanks and underscores in the tags, numbers as text and
text as numbers, and two nodes without a tag. -/
def loose : List AuthoredNode :=
  [{}, {
    tag := some " or "
    count := some (.text " 1 ")
    children := [
      { tag := some "force_technique", requirement := some (.integer 3) },
      {},
      { tag := some "Special", requirement := some (.text "IS A DROID") }] }]

theorem listOfText_listToText_loose :
    listOfText (Json.list AuthoredNode.toJson loose).render =
        .ok [any "" 1 [leaf "" (.techniqueCount 3), leaf "" (.special .droid)]] ∧
      IsFullList [any "" 1 [leaf "" (.techniqueCount 3), leaf "" (.special .droid)]] ∧
      listOfText (listToText [any "" 1 [leaf "" (.techniqueCount 3), leaf "" (.special .droid)]]) =
        .ok [any "" 1 [leaf "" (.techniqueCount 3), leaf "" (.special .droid)]] := by
  have hloaded : loadList loose =
      .ok [any "" 1 [leaf "" (.techniqueCount 3), leaf "" (.special .droid)]] := by rfl
  have haccepted : listOfText (Json.list AuthoredNode.toJson loose).render =
      .ok [any "" 1 [leaf "" (.techniqueCount 3), leaf "" (.special .droid)]] := by
    rw [listOfText_render (isPlain_list loose), listOfContent_list, hloaded, if_pos (by decide)]
    rfl
  have hfull : IsFullList [any "" 1 [leaf "" (.techniqueCount 3), leaf "" (.special .droid)]] :=
    ⟨⟨List.cons_ne_nil _ _, trivial, trivial, trivial⟩, trivial⟩
  have hreload := listOfText_listToText haccepted hfull
  rw [if_pos (by decide)] at hreload
  exact ⟨haccepted, hfull, hreload⟩

/-! ## What does not come back -/

/-- A node that stands alone may be one combination higher than a node in a list. -/
theorem listOfText_toJson {node : Prerequisite} (htag : Text.isBlankText node.tagText = false)
    (h : node.Canonical) :
    listOfText node.toJson.render =
      if node.height ≤ 63 then .ok [node] else .error .unreadable := by
  have hdepth : node.toJson.depth ≤ Json.maxNesting ↔ node.height ≤ 63 := by
    rw [depth_toJson (isFull_of_canonical h), Json.maxNesting]
    omega
  have hcontent : listOfContent node.toJson = .ok [node] := by
    have hcanonical : CanonicalList [node] := ⟨⟨htag, h⟩, trivial⟩
    have hlist : loadList [node.save] = .ok [node] := loadList_saveList hcanonical
    rw [toJson, listOfContent_toJson, hlist]
    rfl
  have hplain : node.toJson.IsPlain := node.save.isPlain_toJson
  rw [listOfText_render hplain, hcontent]
  simp only [hdepth]

/-- So many combinations, each of them the only node below the one before. -/
def nested : Nat → Prerequisite
  | 0 => leaf "" (.special .droid)
  | n + 1 => all "" [nested n]

theorem height_nested (n : Nat) : (nested n).height = n := by
  induction n with
  | zero => rfl
  | succ n ih => rw [nested, height, heightList, heightList, ih, Nat.max_zero]

theorem canonical_nested (n : Nat) :
    Text.isBlankText (nested n).tagText = false ∧ (nested n).Canonical := by
  induction n with
  | zero => exact ⟨by decide, by rw [nested, Canonical, Condition.Canonical]; decide +kernel⟩
  | succ n ih => exact ⟨by rw [nested, tagText]; decide, List.cons_ne_nil _ _, ih, trivial⟩

/-- Two accepted texts whose saved text is refused: a combination without a node that counts, and the
highest node that can stand alone. -/
theorem accepted_and_not_reloaded :
    listOfText "\x7b\"type\":\"AND\",\"text\":\"\",\"children\":[\x7b\"text\":\"\"\x7d]\x7d" =
        .ok [all "" []] ∧
      listOfText (listToText [all "" []]) = .error (.authoring (.noChildren "AND")) ∧
      listOfText (nested 63).toJson.render = .ok [nested 63] ∧
      listOfText (listToText [nested 63]) = .error .unreadable := by
  obtain ⟨htag, hcanonical⟩ := canonical_nested 63
  have haccepted : listOfText (nested 63).toJson.render = .ok [nested 63] := by
    rw [listOfText_toJson htag hcanonical, height_nested, if_pos (Nat.le_refl 63)]
  refine ⟨?_, ?_, haccepted, ?_⟩
  · have htext : "\x7b\"type\":\"AND\",\"text\":\"\",\"children\":[\x7b\"text\":\"\"\x7d]\x7d" =
        (AuthoredNode.toJson { tag := some "AND", children := [{}] }).render := by decide +kernel
    rw [htext, listOfText_render (AuthoredNode.isPlain_toJson _), listOfContent_toJson,
      if_pos (by decide)]
    rfl
  · rw [listToText, listToJson_saveList, listOfText_render (isPlain_list _), listOfContent_list,
      if_pos (by decide)]
    rfl
  · have hlist : CanonicalList [nested 63] := ⟨⟨htag, hcanonical⟩, trivial⟩
    have hheight : ¬ heightList [nested 63] ≤ 62 := by
      rw [heightList, heightList, height_nested]
      decide
    rw [listOfText_listToText_of_canonicalList hlist, if_neg hheight]

end Prerequisite

end CharacterSheet
