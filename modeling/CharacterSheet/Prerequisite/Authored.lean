import CharacterSheet.Json.Record

/-!
# Authored nodes

A prerequisite as content has it: a tag, the text to show, and a few loosely typed fields whose
meaning depends on the tag. Nothing is checked here but the shape. Absent fields and an empty list of
children are not written.
-/

namespace CharacterSheet

/-- A field that is authored as a number or as text. -/
inductive AuthoredField where
  | integer (n : Int64)
  | text (s : String)
  deriving DecidableEq

namespace AuthoredField

/-- The field as text. -/
def toText : AuthoredField → String
  | integer n => Text.integer n.toInt
  | text s => s

/-- The field as a file has it. -/
def toJson : AuthoredField → Json
  | integer n => .integer n.toInt
  | text s => .string s

/-- Reads a field. -/
def ofJson : Json → Json.Decoded AuthoredField
  | .string s => .ok (text s)
  | j => (Json.asInt64 j).map integer

end AuthoredField

/-- A node as content has it. -/
structure AuthoredNode where
  tag : Option String := none
  text : String := ""
  requirement : Option AuthoredField := none
  low : Option AuthoredField := none
  high : Option AuthoredField := none
  count : Option AuthoredField := none
  children : List AuthoredNode := []

namespace AuthoredNode

mutual

/-- The node as a file has it. -/
def toJson : AuthoredNode → Json
  | ⟨tag, text, requirement, low, high, count, children⟩ =>
    .object (
      Json.member? "type" .string tag ++
      [("text", .string text)] ++
      Json.member? "requirement" AuthoredField.toJson requirement ++
      Json.member? "low" AuthoredField.toJson low ++
      Json.member? "high" AuthoredField.toJson high ++
      Json.member? "count" AuthoredField.toJson count ++
      match children with
      | [] => []
      | child :: rest => [("children", .array (child.toJson :: listToJson rest))])

/-- A list of nodes as a file has it. -/
def listToJson : List AuthoredNode → List Json
  | [] => []
  | node :: rest => node.toJson :: listToJson rest

end

/-- Reads a node, given how to read the value under its `children`. -/
def ofRecord (record : Json.Record) (children : Json.Decoded (List AuthoredNode)) :
    Json.Decoded AuthoredNode := do
  return {
    tag := ← record.optional 0 ["type"] Json.asText
    text := ← record.withDefault 1 ["text"] "" Json.asText
    requirement := ← record.optional 2 ["requirement"] AuthoredField.ofJson
    low := ← record.optional 3 ["low"] AuthoredField.ofJson
    high := ← record.optional 4 ["high"] AuthoredField.ofJson
    count := ← record.optional 5 ["count"] AuthoredField.ofJson
    children := ← children }

/-- Reads a node. -/
def ofJson (j : Json) : Json.Decoded AuthoredNode :=
  match _hr : j.asRecord 7 with
  | .error misfit => .error misfit
  | .ok record =>
    ofRecord record <| match _hc : record.find 6 ["children"] with
      | .error misfit => .error misfit
      | .ok none => .ok []
      | .ok (some (.array elements)) => elements.attach.mapM fun ⟨element, _⟩ => ofJson element
      | .ok (some _) => .error .shape
termination_by sizeOf j
decreasing_by
  have := Json.sizeOf_lt_of_find _hr _hc
  have := List.sizeOf_lt_of_mem ‹element ∈ elements›
  simp only [Json.array.sizeOf_spec] at *
  omega

/-- Reading a node is reading its fields, and its children as a list of nodes. -/
theorem ofJson_eq (j : Json) :
    ofJson j = j.asRecord 7 >>= fun record =>
      ofRecord record (record.list 6 ["children"] ofJson) := by
  rw [ofJson]
  split
  · next misfit hr => rw [hr]; rfl
  · next record hr =>
    rw [hr]
    show _ = ofRecord record _
    congr 1
    unfold Json.Record.list Json.Record.withDefault
    split
    · next misfit hc => rw [hc]; rfl
    · next hc => rw [hc]; rfl
    · next elements hc => rw [hc]; simp [Json.asList, bind, Except.bind]
    · next v hne hc =>
      rw [hc]
      cases v <;> first | rfl | exact absurd rfl (hne _)

end AuthoredNode

/-- Reads one node or a list of nodes. An array is one node, field by field, if it fits one. -/
def AuthoredNode.ofJsonOneOrMany (j : Json) : Json.Decoded (List AuthoredNode) :=
  match ofJson j with
  | .ok node => .ok [node]
  | .error _ => j.asList ofJson

end CharacterSheet
