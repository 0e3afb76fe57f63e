import CharacterSheet.Fault
import CharacterSheet.Json.Value
import CharacterSheet.Text.Numeral

/-!
# Reading records

A decoder takes a JSON value and gives the part of the model that it stands for, or the `Misfit`
between the two.

A record is an object, whose members are found by their key and may come in any order with unknown
ones among them, or an array, whose elements are the fields in the order of their declaration. In
both forms a field with a default may be absent: a member left out, or an array that ends early. A
known key may not be given twice, and an array may not be longer than the record.
-/

namespace CharacterSheet.Json

/-- What a decoder gives. -/
abbrev Decoded (α : Type) := Except Misfit α

/-! ## Single values -/

/-- A string. -/
def asText : Json → Decoded String
  | .string s => .ok s
  | _ => .error .shape

/-- A truth value. -/
def asFlag : Json → Decoded Bool
  | .bool b => .ok b
  | _ => .error .shape

/-- A whole number that `fit` accepts. -/
def asNumber {α : Type} (fit : Int → Option α) : Json → Decoded α
  | .integer n => match fit n with
    | some a => .ok a
    | none => .error .shape
  | _ => .error .shape

/-- An unsigned number of 32 bits. -/
def asUInt32 : Json → Decoded UInt32 := asNumber Text.uint32?

/-- An unsigned number of 64 bits. -/
def asUInt64 : Json → Decoded UInt64 := asNumber Text.uint64?

/-- A signed number of 64 bits. -/
def asInt64 : Json → Decoded Int64 := asNumber Text.int64?

/-- A value that may be `null`, which means that there is none. -/
def asOption {α : Type} (decode : Json → Decoded α) : Json → Decoded (Option α)
  | .null => .ok none
  | j => (decode j).map some

/-- An array of values. -/
def asList {α : Type} (decode : Json → Decoded α) : Json → Decoded (List α)
  | .array elements => elements.mapM decode
  | _ => .error .shape

/-- One of a fixed set of names, bare or as the only key of an object that holds `null`. -/
def asChoice {α : Type} (choices : List (String × α)) : Json → Decoded α
  | .string name | .object [(name, .null)] => match choices.lookup name with
    | some a => .ok a
    | none => .error .shape
  | _ => .error .shape

/-! ## Records -/

/-- The fields of a record as they stand in the file. -/
inductive Record where
  /-- by key -/
  | named (members : List (String × Json))
  /-- by place -/
  | placed (fields : List Json)

/-- A value taken as a record of `arity` fields. -/
def asRecord (arity : Nat) : Json → Decoded Record
  | .object members => .ok (.named members)
  | .array fields => if fields.length ≤ arity then .ok (.placed fields) else .error .shape
  | _ => .error .shape

namespace Record

/-- The value of the field at `place`, which goes by any of `names`. -/
def find (record : Record) (place : Nat) (names : List String) : Decoded (Option Json) :=
  match record with
  | .placed fields => .ok fields[place]?
  | .named members =>
    match members.filter fun member => names.contains member.1 with
    | [] => .ok none
    | [member] => .ok (some member.2)
    | _ => .error .shape

/-- A field that has to be there. -/
def required {α : Type} (record : Record) (place : Nat) (names : List String)
    (decode : Json → Decoded α) : Decoded α := do
  match ← record.find place names with
  | some j => decode j
  | none => .error .shape

/-- A field that may be absent, and then has the value `default`. -/
def withDefault {α : Type} (record : Record) (place : Nat) (names : List String) (default : α)
    (decode : Json → Decoded α) : Decoded α := do
  match ← record.find place names with
  | some j => decode j
  | none => .ok default

/-- A field that may be absent or `null`. -/
def optional {α : Type} (record : Record) (place : Nat) (names : List String)
    (decode : Json → Decoded α) : Decoded (Option α) :=
  record.withDefault place names none (asOption decode)

/-- A list field that may be absent. -/
def list {α : Type} (record : Record) (place : Nat) (names : List String)
    (decode : Json → Decoded α) : Decoded (List α) :=
  record.withDefault place names [] (asList decode)

end Record

/-! ## Fields are smaller than their record -/

theorem sizeOf_lt_of_find {arity place : Nat} {names : List String} {j v : Json} {record : Record}
    (hr : j.asRecord arity = .ok record) (hv : record.find place names = .ok (some v)) :
    sizeOf v < sizeOf j := by
  unfold asRecord at hr
  split at hr
  · obtain rfl : Record.named _ = record := by simpa using hr
    simp only [Record.find] at hv
    split at hv
    · simp at hv
    · next members member hm =>
      obtain rfl : member.2 = v := by simpa using hv
      have hmem := (List.mem_filter.mp (hm ▸ List.mem_singleton_self member)).1
      have := List.sizeOf_lt_of_mem hmem
      obtain ⟨key, value⟩ := member
      simp only [Json.object.sizeOf_spec, Prod.mk.sizeOf_spec] at this ⊢
      omega
    · simp at hv
  · split at hr
    · obtain rfl : Record.placed _ = record := by simpa using hr
      have := List.sizeOf_lt_of_mem (List.mem_of_getElem? (by simpa [Record.find] using hv))
      simp only [Json.array.sizeOf_spec]
      omega
    · simp at hr
  · simp at hr

end CharacterSheet.Json
