import CharacterSheet.Prerequisite.Authored
import CharacterSheet.Proofs.Json.Record
import CharacterSheet.Proofs.Json.RoundTrip

/-!
# Authored nodes are read as they were written

Whatever an authored node holds, its JSON value is read as the same node (`ofJson_toJson`). A list of
nodes is read as a list: no node fits it, since a node that is given field by field starts with its
tag and an object is no tag (`ofJsonOneOrMany_list`).

Every node nests its children two deeper than itself, one level for the list and one for each object.
-/

namespace CharacterSheet

/-! ## Fields -/

namespace AuthoredField

theorem toJson_ne_null (field : AuthoredField) : field.toJson ≠ .null := by
  cases field <;> exact Json.noConfusion

theorem isPlain_toJson (field : AuthoredField) : field.toJson.IsPlain := by
  cases field with
  | integer n =>
    have hlow := n.le_toInt
    have hhigh := n.toInt_lt
    exact .integer ⟨hlow, by omega⟩
  | text s => exact .string s

theorem depth_toJson (field : AuthoredField) : field.toJson.depth = 0 := by
  cases field <;> rfl

theorem ofJson_toJson (field : AuthoredField) : ofJson field.toJson = .ok field := by
  cases field with
  | integer n =>
    show (Json.asInt64 (.integer n.toInt)).map integer = _
    rw [Json.asInt64_toInt]
    rfl
  | text s => rfl

end AuthoredField

namespace AuthoredNode

/-! ## The members of a node -/

/-- The members of a node but its children. -/
def ownMembers (node : AuthoredNode) : List (String × Json) :=
  Json.member? "type" .string node.tag ++
  [("text", .string node.text)] ++
  Json.member? "requirement" AuthoredField.toJson node.requirement ++
  Json.member? "low" AuthoredField.toJson node.low ++
  Json.member? "high" AuthoredField.toJson node.high ++
  Json.member? "count" AuthoredField.toJson node.count

theorem listToJson_eq_map (nodes : List AuthoredNode) : listToJson nodes = nodes.map toJson := by
  induction nodes with
  | nil => rfl
  | cons node rest ih => rw [listToJson, ih, List.map_cons]

theorem toJson_eq (node : AuthoredNode) :
    node.toJson = .object (node.ownMembers ++ Json.members? "children" toJson node.children) := by
  obtain ⟨tag, text, requirement, low, high, count, children⟩ := node
  cases children with
  | nil => simp [toJson, ownMembers, Json.members?]
  | cons child rest =>
    simp [toJson, ownMembers, Json.members?, Json.list, listToJson_eq_map]

/-- The fields of a node as they are written. -/
def fields (node : AuthoredNode) : List (String × Option Json) := [
  ("type", node.tag.map .string),
  ("text", some (.string node.text)),
  ("requirement", node.requirement.map AuthoredField.toJson),
  ("low", node.low.map AuthoredField.toJson),
  ("high", node.high.map AuthoredField.toJson),
  ("count", node.count.map AuthoredField.toJson),
  ("children", Json.list? toJson node.children)]

theorem toJson_eq_present (node : AuthoredNode) : node.toJson = .object (Json.present node.fields) := by
  rw [toJson_eq, ownMembers]
  simp only [Json.member?_eq_present, Json.members?_eq_present, Json.singleton_eq_present,
    ← Json.present_append]
  rfl

theorem nodup_fields (node : AuthoredNode) : (node.fields.map Prod.fst).Nodup := by
  simp [fields]

/-- The members of a node are read as its fields. -/
theorem ofRecord_fields (node : AuthoredNode) (others : Json.Decoded (List AuthoredNode)) :
    ofRecord (.named (Json.present node.fields)) others =
      others.map fun children => { node with children } := by
  have hfind := Json.Record.find_present node.nodup_fields
  have hfield : ∀ {place : Nat} {key : String} {field : Option AuthoredField},
      node.fields[place]? = some (key, field.map AuthoredField.toJson) →
      (Json.Record.named (Json.present node.fields)).optional place [key] AuthoredField.ofJson =
        .ok field :=
    fun h => Json.Record.optional_of_find (hfind h) AuthoredField.toJson_ne_null
      AuthoredField.ofJson_toJson
  rw [ofRecord]
  refine Json.bind_eq_of_eq_ok
    (Json.Record.optional_of_find (hfind rfl) (fun _ => Json.noConfusion) fun _ => rfl) ?_
  refine Json.bind_eq_of_eq_ok (Json.Record.withDefault_of_find (hfind rfl) rfl) ?_
  refine Json.bind_eq_of_eq_ok (hfield rfl) ?_
  refine Json.bind_eq_of_eq_ok (hfield rfl) ?_
  refine Json.bind_eq_of_eq_ok (hfield rfl) ?_
  refine Json.bind_eq_of_eq_ok (hfield rfl) ?_
  cases others <;> rfl

theorem list_children_fields (node : AuthoredNode)
    (h : ∀ child ∈ node.children, ofJson child.toJson = .ok child) :
    (Json.Record.named (Json.present node.fields)).list 6 ["children"] ofJson =
      .ok node.children :=
  Json.Record.withDefault_nil_of_find (Json.Record.find_present node.nodup_fields rfl)
    (Json.asList_list h)

/-! ## Whole nodes -/

mutual

/-- A node is read as it was written. -/
theorem ofJson_toJson : ∀ node : AuthoredNode, ofJson node.toJson = .ok node
  | ⟨tag, text, requirement, low, high, count, children⟩ => by
    have hchildren := ofJson_of_mem children
    rw [toJson_eq_present, ofJson_eq, Json.asRecord]
    show ofRecord _ _ = _
    rw [list_children_fields _ hchildren, ofRecord_fields]
    rfl

theorem ofJson_of_mem : ∀ nodes : List AuthoredNode, ∀ node ∈ nodes, ofJson node.toJson = .ok node
  | [] => List.forall_mem_nil _
  | node :: rest => List.forall_mem_cons.mpr ⟨ofJson_toJson node, ofJson_of_mem rest⟩

end

/-- One or more nodes in a list are no single node: the first of them stands where a tag would. -/
theorem exists_ofJson_list_eq_error (node : AuthoredNode) (rest : List AuthoredNode) :
    ∃ misfit, ofJson (Json.list toJson (node :: rest)) = .error misfit := by
  rw [ofJson_eq, Json.list, Json.asRecord]
  split
  · -- there are few enough fields, but the tag is an object
    refine ⟨.shape, ?_⟩
    rw [List.map_cons, toJson_eq]
    rfl
  · exact ⟨.shape, rfl⟩

/-- A list of nodes is read as it was written. -/
theorem ofJsonOneOrMany_list (node : AuthoredNode) (rest : List AuthoredNode) :
    ofJsonOneOrMany (Json.list toJson (node :: rest)) = .ok (node :: rest) := by
  obtain ⟨misfit, hsingle⟩ := exists_ofJson_list_eq_error node rest
  have hlist : (Json.list toJson (node :: rest)).asList ofJson = .ok (node :: rest) :=
    Json.asList_list fun n _ => ofJson_toJson n
  rw [ofJsonOneOrMany, hsingle, hlist]

/-! ## Nesting -/

theorem mem_ownMembers {node : AuthoredNode} {member : String × Json}
    (h : member ∈ node.ownMembers) : member.2.IsPlain ∧ member.2.depth = 0 := by
  have hmember : ∀ {α : Type} {key : String} {encode : α → Json} {value : Option α},
      (∀ a, (encode a).IsPlain ∧ (encode a).depth = 0) →
      member ∈ Json.member? key encode value → member.2.IsPlain ∧ member.2.depth = 0 := by
    intro α key encode value hencode hmem
    cases value with
    | none => exact absurd hmem List.not_mem_nil
    | some a =>
      obtain rfl := List.mem_singleton.mp hmem
      exact hencode a
  have hfield : ∀ field : AuthoredField, field.toJson.IsPlain ∧ field.toJson.depth = 0 :=
    fun field => ⟨field.isPlain_toJson, field.depth_toJson⟩
  simp only [ownMembers, List.mem_append] at h
  rcases h with ((((h | h) | h) | h) | h) | h
  · exact hmember (fun s => ⟨.string s, rfl⟩) h
  · obtain rfl := List.mem_singleton.mp h
    exact ⟨.string node.text, rfl⟩
  · exact hmember hfield h
  · exact hmember hfield h
  · exact hmember hfield h
  · exact hmember hfield h

mutual

theorem isPlain_toJson : ∀ node : AuthoredNode, node.toJson.IsPlain
  | ⟨tag, text, requirement, low, high, count, children⟩ => by
    have hchildren := isPlain_of_mem children
    rw [toJson_eq]
    refine .object fun member hmember => ?_
    rcases List.mem_append.mp hmember with hown | hrest
    · exact (mem_ownMembers hown).1
    · cases children with
      | nil => exact absurd hrest List.not_mem_nil
      | cons child rest =>
        obtain rfl := List.mem_singleton.mp hrest
        refine .array fun j hj => ?_
        obtain ⟨node, hnode, rfl⟩ := List.mem_map.mp hj
        exact hchildren node hnode

theorem isPlain_of_mem : ∀ nodes : List AuthoredNode, ∀ node ∈ nodes, node.toJson.IsPlain
  | [] => List.forall_mem_nil _
  | node :: rest => List.forall_mem_cons.mpr ⟨isPlain_toJson node, isPlain_of_mem rest⟩

end

theorem depthMembers_ownMembers (node : AuthoredNode) : Json.depthMembers node.ownMembers = 0 :=
  Json.depthMembers_eq_zero fun _ hmember => (mem_ownMembers hmember).2

theorem depth_toJson_of_children_eq_nil {node : AuthoredNode} (h : node.children = []) :
    node.toJson.depth = 1 := by
  rw [toJson_eq, h, Json.members?, List.append_nil, Json.depth, depthMembers_ownMembers]

/-- A node with children nests them below an object and a list. -/
theorem depth_toJson_of_children_ne_nil {node : AuthoredNode} (h : node.children ≠ []) :
    node.toJson.depth = Json.depthList (node.children.map toJson) + 2 := by
  obtain ⟨child, rest, hchildren⟩ := List.exists_cons_of_ne_nil h
  rw [toJson_eq, Json.depth, Json.depthMembers_append, depthMembers_ownMembers, hchildren,
    Json.members?, Json.depthMembers, Json.depthMembers, Json.list, Json.depth]
  omega

end AuthoredNode

end CharacterSheet
