import CharacterSheet.Json.Record

/-!
# Records are read as they were encoded

An encoder writes the fields of a record one after the other and no two of them share a key. So a
reader that picks the members of one field by its key gets what the encoder wrote for that field
(`Record.find_members`). Some encoders leave out what is absent: they write the members that are present
of a list of fields, and a reader finds nothing where they wrote nothing (`Record.find_present`).

What a decoder gives has passed all that it is made of: `Gives` states a property of it, and has one
lemma for each way to put decoders together.
-/

namespace CharacterSheet.Json

variable {α : Type}

/-! ## Single values -/

theorem asOption_of_ne_null (decode : Json → Decoded α) {j : Json} (h : j ≠ .null) :
    asOption decode j = (decode j).map some := by
  cases j with
  | null => exact absurd rfl h
  | _ => rfl

theorem asInt64_toInt (n : Int64) : asInt64 (.integer n.toInt) = .ok n := by
  rw [asInt64, asNumber, Text.int64?_toInt]

theorem asUInt32_toNat (n : UInt32) : asUInt32 (.integer n.toNat) = .ok n := by
  rw [asUInt32, asNumber, Text.uint32?_toNat]

/-- A value or `null` is read as it was encoded. -/
theorem asOption_nullable {encode : α → Json} {decode : Json → Decoded α} {value : Option α}
    (hnull : ∀ a, encode a ≠ .null) (hdecode : ∀ a, decode (encode a) = .ok a) :
    asOption decode (nullable encode value) = .ok value := by
  cases value with
  | none => rfl
  | some a =>
    rw [nullable, asOption_of_ne_null decode (hnull a), hdecode]
    rfl

theorem mapM_map_eq_ok {encode : α → Json} {decode : Json → Decoded α} {values : List α}
    (h : ∀ a ∈ values, decode (encode a) = .ok a) :
    (values.map encode).mapM decode = .ok values := by
  induction values with
  | nil => rfl
  | cons a rest ih =>
    obtain ⟨ha, hrest⟩ := List.forall_mem_cons.mp h
    rw [List.map_cons, List.mapM_cons, ha, ih hrest]
    rfl

/-- A list is read as it was encoded if each of its elements is. -/
theorem asList_list {encode : α → Json} {decode : Json → Decoded α} {values : List α}
    (h : ∀ a ∈ values, decode (encode a) = .ok a) :
    (list encode values).asList decode = .ok values :=
  mapM_map_eq_ok h

/-! ## Fields by their keys -/

/-- The members of an object. -/
def members : Json → List (String × Json)
  | .object members => members
  | _ => []

/-- Where no key is given twice, a key picks its field and no other. -/
theorem filter_key {fields : List (String × α)} {key : String} {a : α}
    (hkeys : (fields.map Prod.fst).Nodup) (h : (key, a) ∈ fields) :
    fields.filter (fun field => [key].contains field.1) = [(key, a)] := by
  induction fields with
  | nil => cases h
  | cons field rest ih =>
    obtain ⟨hfresh, hrest⟩ := List.nodup_cons.mp hkeys
    rcases List.mem_cons.mp h with rfl | h
    · have hothers : rest.filter (fun field => [key].contains field.1) = [] := by
        refine List.filter_eq_nil_iff.mpr fun other hother hcontains => hfresh ?_
        exact List.mem_map.mpr ⟨other, hother, by simpa using hcontains⟩
      rw [List.filter_cons_of_pos (by simp), hothers]
    · have hne : field.1 ≠ key := fun heq => hfresh (List.mem_map.mpr ⟨_, h, heq.symm⟩)
      rw [List.filter_cons_of_neg (by simpa using hne), ih hrest h]

theorem Record.find_members {members : List (String × Json)}
    (hkeys : (members.map Prod.fst).Nodup) ⦃place : Nat⦄ ⦃key : String⦄ ⦃j : Json⦄
    (h : members[place]? = some (key, j)) : (named members).find place [key] = .ok (some j) := by
  rw [find, filter_key hkeys (List.mem_of_getElem? h)]

/-! ## Fields that may be absent -/

/-- The value of a list field that is there only if the list has elements. -/
def list? (encode : α → Json) : List α → Option Json
  | [] => none
  | a :: rest => some (list encode (a :: rest))

/-- The members of the fields that are there. -/
def present (fields : List (String × Option Json)) : List (String × Json) :=
  fields.filterMap fun field => field.2.map fun j => (field.1, j)

theorem present_append (fields others : List (String × Option Json)) :
    present (fields ++ others) = present fields ++ present others :=
  List.filterMap_append

theorem present_cons (key : String) (j : Json) (fields : List (String × Option Json)) :
    present ((key, some j) :: fields) = (key, j) :: present fields := rfl

theorem singleton_eq_present (key : String) (j : Json) : [(key, j)] = present [(key, some j)] := rfl

theorem member?_eq_present (key : String) (encode : α → Json) (value : Option α) :
    member? key encode value = present [(key, value.map encode)] := by
  cases value <;> rfl

theorem members?_eq_present (key : String) (encode : α → Json) (values : List α) :
    members? key encode values = present [(key, list? encode values)] := by
  cases values <;> rfl

theorem filter_present (p : String → Bool) (fields : List (String × Option Json)) :
    (present fields).filter (fun member => p member.1) =
      present (fields.filter fun field => p field.1) := by
  rw [present, present, List.filter_filterMap, List.filterMap_filter]
  congr 1
  funext field
  cases field.2 <;> simp [Option.filter]

namespace Record

variable {place : Nat} {names : List String}

/-- A field may go by several names, if no other field goes by one of them. -/
theorem find_present_of_filter_eq {fields : List (String × Option Json)} (key : String)
    {j : Option Json} (h : fields.filter (fun field => names.contains field.1) = [(key, j)]) :
    (named (present fields)).find place names = .ok j := by
  rw [find, filter_present names.contains, h]
  cases j <;> rfl

theorem find_present {fields : List (String × Option Json)}
    (hkeys : (fields.map Prod.fst).Nodup) ⦃place : Nat⦄ ⦃key : String⦄ ⦃j : Option Json⦄
    (h : fields[place]? = some (key, j)) : (named (present fields)).find place [key] = .ok j :=
  find_present_of_filter_eq key (filter_key hkeys (List.mem_of_getElem? h))

/-! ## Fields that were found -/

variable {record : Record} {decode : Json → Decoded α}

theorem required_of_find {j : Json} {a : α} (hfind : record.find place names = .ok (some j))
    (hdecode : decode j = .ok a) : record.required place names decode = .ok a := by
  rw [required, hfind]
  exact hdecode

theorem withDefault_of_find {j : Json} {a default : α}
    (hfind : record.find place names = .ok (some j)) (hdecode : decode j = .ok a) :
    record.withDefault place names default decode = .ok a := by
  rw [withDefault, hfind]
  exact hdecode

theorem optional_of_find {encode : α → Json} {value : Option α}
    (hfind : record.find place names = .ok (value.map encode)) (hnull : ∀ a, encode a ≠ .null)
    (hdecode : ∀ a, decode (encode a) = .ok a) :
    record.optional place names decode = .ok value := by
  rw [optional, withDefault, hfind]
  cases value with
  | none => rfl
  | some a =>
    show asOption decode (nullable encode (some a)) = _
    exact asOption_nullable hnull hdecode

/-- A list that may have been left out for having no elements. -/
theorem withDefault_nil_of_find {encode : α → Json} {values : List α}
    {decode : Json → Decoded (List α)}
    (hfind : record.find place names = .ok (list? encode values))
    (hdecode : decode (Json.list encode values) = .ok values) :
    record.withDefault place names [] decode = .ok values := by
  rw [withDefault, hfind]
  cases values with
  | nil => rfl
  | cons a rest => exact hdecode

end Record

/-- A decoder goes on with what another one gave. -/
theorem bind_eq_of_eq_ok {β : Type} {x : Decoded α} {f : α → Decoded β} {a : α} {y : Decoded β}
    (hx : x = .ok a) (hf : f a = y) : x >>= f = y := by
  rw [hx]
  exact hf

/-! ## What a decoder gives -/

/-- Whatever the decoder gives has the property. -/
def Gives (x : Decoded α) (P : α → Prop) : Prop :=
  ∀ a, x = .ok a → P a

namespace Gives

variable {β : Type} {P : α → Prop}

theorem ok {a : α} (h : P a) : Gives (.ok a) P := by
  rintro _ ⟨⟩
  exact h

theorem error (misfit : Misfit) : Gives (.error misfit) P :=
  fun _ h => nomatch h

theorem bind {x : Decoded α} {f : α → Decoded β} {Q : β → Prop} (hx : Gives x P)
    (hf : ∀ a, P a → Gives (f a) Q) : Gives (x >>= f) Q := by
  cases x with
  | error misfit => exact error misfit
  | ok a => exact hf a (hx a rfl)

/-- A decoder of which nothing is known. -/
theorem bind_any {x : Decoded α} {f : α → Decoded β} {Q : β → Prop}
    (hf : ∀ a, Gives (f a) Q) : Gives (x >>= f) Q :=
  bind (P := fun _ => True) (fun _ _ => trivial) fun a _ => hf a

theorem withDefault {decode : Json → Decoded α} {record : Record} {place : Nat}
    {names : List String} {default : α} (hdefault : P default)
    (hdecode : ∀ j, Gives (decode j) P) :
    Gives (record.withDefault place names default decode) P := by
  refine bind_any fun found => ?_
  cases found with
  | none => exact ok hdefault
  | some j => exact hdecode j

theorem mapM {decode : Json → Decoded α} {elements : List Json}
    (hdecode : ∀ j, Gives (decode j) P) :
    Gives (elements.mapM decode) fun values => ∀ a ∈ values, P a := by
  induction elements with
  | nil => exact ok (List.forall_mem_nil P)
  | cons j rest ih =>
    rw [List.mapM_cons]
    refine bind (hdecode j) fun a ha => bind ih fun values hvalues => ok ?_
    exact List.forall_mem_cons.mpr ⟨ha, hvalues⟩

theorem list {decode : Json → Decoded α} {record : Record} {place : Nat} {names : List String}
    (hdecode : ∀ j, Gives (decode j) P) :
    Gives (record.list place names decode) fun values => ∀ a ∈ values, P a := by
  refine withDefault (List.forall_mem_nil P) fun j => ?_
  cases j with
  | array elements => exact mapM hdecode
  | _ => exact error .shape

end Gives

end CharacterSheet.Json
