import CharacterSheet.Proofs.Json.Tokens

/-!
# Values are read as they were written

A value whose numbers all fit a word is read back from its text, whatever strings and keys it holds,
unless its arrays and objects nest deeper than a text may have them: then nothing is read
(`read_render`). So the nesting of a value decides by itself whether a saved file can be opened again.
-/

namespace CharacterSheet.Json

/-! ## Nesting -/

mutual

/-- How deep arrays and objects nest in a value. -/
def depth : Json → Nat
  | .array elements => depthList elements + 1
  | .object members => depthMembers members + 1
  | .null | .bool _ | .integer _ | .decimal _ | .string _ => 0

/-- How deep they nest in the deepest element. -/
def depthList : List Json → Nat
  | [] => 0
  | element :: rest => max (depth element) (depthList rest)

/-- How deep they nest in the deepest member. -/
def depthMembers : List (String × Json) → Nat
  | [] => 0
  | (_, value) :: rest => max (depth value) (depthMembers rest)

end

theorem depthMembers_append (ms ns : List (String × Json)) :
    depthMembers (ms ++ ns) = max (depthMembers ms) (depthMembers ns) := by
  induction ms with
  | nil => simp [depthMembers]
  | cons m ms ih =>
    obtain ⟨key, value⟩ := m
    rw [List.cons_append, depthMembers, depthMembers, ih, Nat.max_assoc]

theorem depthMembers_eq_zero {ms : List (String × Json)} (h : ∀ m ∈ ms, m.2.depth = 0) :
    depthMembers ms = 0 := by
  induction ms with
  | nil => rfl
  | cons m ms ih =>
    obtain ⟨hm, hms⟩ := List.forall_mem_cons.mp h
    obtain ⟨key, value⟩ := m
    rw [depthMembers, ih hms, hm, Nat.max_self]

/-- A value whose numbers are all whole and fit a word. Nothing that is saved holds other numbers. -/
inductive IsPlain : Json → Prop where
  | null : IsPlain .null
  | bool (b : Bool) : IsPlain (.bool b)
  | integer {n : Int} (word : InWord n) : IsPlain (.integer n)
  | string (s : String) : IsPlain (.string s)
  | array {elements : List Json} (each : ∀ j ∈ elements, IsPlain j) : IsPlain (.array elements)
  | object {members : List (String × Json)} (each : ∀ m ∈ members, IsPlain m.2) :
    IsPlain (.object members)

/-! ## One step of the readers -/

theorem skipSpace_cons {c : Char} (h : isSpace c = false) (s : List Char) :
    skipSpace (c :: s) = c :: s := by
  simp [skipSpace, h]

theorem isSpace_of_startsInteger {c : Char} (hc : c = '-' ∨ c.isDigit = true) :
    isSpace c = false := by
  simp only [isSpace, Bool.or_eq_false_iff, beq_eq_false_iff_ne]
  refine ⟨⟨⟨?_, ?_⟩, ?_⟩, ?_⟩
  all_goals exact ne_of_startsInteger hc (by decide) rfl

/-- The text of a value starts with a token, which does not close an array. -/
theorem exists_write_eq_cons {j : Json} (h : j.IsPlain) :
    ∃ c cs, j.write = c :: cs ∧ isSpace c = false ∧ c ≠ ']' := by
  cases h with
  | null => exact ⟨'n', _, rfl, rfl, by decide⟩
  | bool b => cases b with
    | false => exact ⟨'f', _, rfl, rfl, by decide⟩
    | true => exact ⟨'t', _, rfl, rfl, by decide⟩
  | @integer n word =>
    obtain ⟨c, cs, hcs, hc⟩ := exists_writeInteger_eq_cons n
    exact ⟨c, cs, hcs, isSpace_of_startsInteger hc, ne_of_startsInteger hc (by decide) rfl⟩
  | string s => exact ⟨'"', _, rfl, rfl, by decide⟩
  | array each => exact ⟨'[', _, rfl, rfl, by decide⟩
  | object each => exact ⟨'\x7b', _, rfl, rfl, by decide⟩

theorem readValue_scalar {c : Char} (hspace : isSpace c = false) (hquote : c ≠ '"')
    (hbracket : c ≠ '[') (hbrace : c ≠ '\x7b') (fuel room : Nat) (s : List Char) :
    readValue (fuel + 1) room (c :: s) = readScalar (c :: s) := by
  have hskip := skipSpace_cons hspace s
  have hhead : ∀ d t, c ≠ d → skipSpace (c :: s) ≠ d :: t := by
    intro d t hne h
    rw [hskip] at h
    exact hne (List.cons_eq_cons.mp h).1
  rw [readValue.eq_7 _ _ _ (fun t => hhead _ t hquote) (fun t h _ => hhead _ t hbracket h)
    (fun t _ h _ => hhead _ t hbracket h) (fun t h _ => hhead _ t hbrace h)
    (fun t _ h _ => hhead _ t hbrace h), hskip]

theorem readValue_array {c : Char} (hspace : isSpace c = false) (hclose : c ≠ ']')
    (fuel room : Nat) (s : List Char) :
    readValue (fuel + 1) (room + 1) ('[' :: c :: s) =
      (readElements fuel room (c :: s)).map fun (elements, s) => (.array elements, s) := by
  rw [readValue.eq_4 _ fuel (c :: s) room (skipSpace_cons rfl _), skipSpace_cons hspace]
  split
  · next h => exact absurd (List.cons_eq_cons.mp h).1 hclose
  · cases readElements fuel room (c :: s) <;> rfl

theorem readValue_object (fuel room : Nat) (s : List Char) :
    readValue (fuel + 1) (room + 1) ('\x7b' :: '"' :: s) =
      (readMembers fuel room ('"' :: s)).map fun (members, s) => (.object members, s) := by
  rw [readValue.eq_6 _ fuel ('"' :: s) room (skipSpace_cons rfl _), skipSpace_cons rfl]
  show (readMembers fuel room ('"' :: s) >>= fun (members, s) => some (Json.object members, s)) = _
  cases readMembers fuel room ('"' :: s) <;> rfl

theorem exists_writeElements_eq_cons {j : Json} (js : List Json) (h : j.IsPlain) :
    ∃ c cs, writeElements (j :: js) = c :: cs ∧ isSpace c = false ∧ c ≠ ']' := by
  obtain ⟨c, cs, hcs, hc⟩ := exists_write_eq_cons h
  cases js with
  | nil => exact ⟨c, cs, hcs, hc⟩
  | cons k ks => exact ⟨c, cs ++ ',' :: writeElements (k :: ks), congrArg (· ++ _) hcs, hc⟩

theorem exists_writeMembers_eq_cons (key : String) (j : Json) (ms : List (String × Json)) :
    ∃ cs, writeMembers ((key, j) :: ms) = '"' :: cs := by
  cases ms with
  | nil => exact ⟨_, rfl⟩
  | cons m ms => exact ⟨_, rfl⟩

/-- An element that is followed by the end of its array. -/
theorem readElements_last (fuel room : Nat) {s rest : List Char} {j : Json} {P : Prop} [Decidable P]
    (h : readValue fuel room s = if P then some (j, ']' :: rest) else none) :
    readElements (fuel + 1) room s = if P then some ([j], rest) else none := by
  rw [readElements, h]
  by_cases hp : P
  · rw [if_pos hp, if_pos hp]
    rfl
  · rw [if_neg hp, if_neg hp]
    rfl

/-- An element that is followed by more of its array. -/
theorem readElements_more (fuel room : Nat) {s rest tail : List Char} {j : Json} {js : List Json}
    {P Q : Prop} [Decidable P] [Decidable Q]
    (h : readValue fuel room s = if P then some (j, ',' :: rest) else none)
    (hrest : readElements fuel room rest = if Q then some (js, tail) else none) :
    readElements (fuel + 1) room s = if P ∧ Q then some (j :: js, tail) else none := by
  rw [readElements, h]
  by_cases hp : P
  · have hskip : skipSpace (',' :: rest) = ',' :: rest := skipSpace_cons rfl rest
    simp only [hp, if_true, true_and, Option.bind_eq_bind, Option.bind_some, hskip, hrest]
    by_cases hq : Q
    · rw [if_pos hq, if_pos hq]
      rfl
    · rw [if_neg hq, if_neg hq]
      rfl
  · rw [if_neg hp, if_neg fun h => hp h.1]
    rfl

theorem writeString_append (s : String) (rest : List Char) :
    writeString s ++ rest = '"' :: (s.toList.flatMap escape ++ '"' :: rest) := by
  simp [writeString]

/-- A member that is followed by the end of its object. -/
theorem readMembers_last (fuel room : Nat) (key : String) {s rest : List Char} {j : Json} {P : Prop}
    [Decidable P] (h : readValue fuel room s = if P then some (j, '}' :: rest) else none) :
    readMembers (fuel + 1) room (writeString key ++ ':' :: s) =
      if P then some ([(key, j)], rest) else none := by
  have hcolon : skipSpace (':' :: s) = ':' :: s := skipSpace_cons rfl s
  rw [writeString_append, readMembers, skipSpace_cons rfl]
  simp only [readString_writeString, Option.bind_eq_bind, Option.bind_some, hcolon, h]
  by_cases hp : P
  · rw [if_pos hp, if_pos hp]
    rfl
  · rw [if_neg hp, if_neg hp]
    rfl

/-- A member that is followed by more of its object. -/
theorem readMembers_more (fuel room : Nat) (key : String) {s rest tail : List Char} {j : Json}
    {ms : List (String × Json)} {P Q : Prop} [Decidable P] [Decidable Q]
    (h : readValue fuel room s = if P then some (j, ',' :: rest) else none)
    (hrest : readMembers fuel room rest = if Q then some (ms, tail) else none) :
    readMembers (fuel + 1) room (writeString key ++ ':' :: s) =
      if P ∧ Q then some ((key, j) :: ms, tail) else none := by
  have hcolon : skipSpace (':' :: s) = ':' :: s := skipSpace_cons rfl s
  have hcomma : skipSpace (',' :: rest) = ',' :: rest := skipSpace_cons rfl rest
  rw [writeString_append, readMembers, skipSpace_cons rfl]
  simp only [readString_writeString, Option.bind_eq_bind, Option.bind_some, hcolon, h]
  by_cases hp : P
  · simp only [hp, if_true, true_and, Option.bind_some, hcomma, hrest]
    by_cases hq : Q
    · rw [if_pos hq, if_pos hq]
      rfl
    · rw [if_neg hq, if_neg hq]
      rfl
  · rw [if_neg hp, if_neg fun h => hp h.1]
    rfl

/-! ## A whole run -/

mutual

/-- A value is read from its text unless it nests too deep. The fuel has to be more than twice the
length of the text: every array and every object takes two of it and writes two brackets. -/
theorem readValue_write : ∀ {j : Json}, j.IsPlain → ∀ (fuel room : Nat) (rest : List Char),
    2 * j.write.length < fuel → EndsValue rest →
    readValue fuel room (j.write ++ rest) = if j.depth ≤ room then some (j, rest) else none
  | .null, _, fuel + 1, room, rest, _, _ => by
    rw [depth, if_pos (Nat.zero_le room)]
    exact readValue_scalar rfl (by decide) (by decide) (by decide) fuel room _
  | .bool false, _, fuel + 1, room, rest, _, _ => by
    rw [depth, if_pos (Nat.zero_le room)]
    exact readValue_scalar rfl (by decide) (by decide) (by decide) fuel room _
  | .bool true, _, fuel + 1, room, rest, _, _ => by
    rw [depth, if_pos (Nat.zero_le room)]
    exact readValue_scalar rfl (by decide) (by decide) (by decide) fuel room _
  | .integer n, .integer word, fuel + 1, room, rest, _, hrest => by
    obtain ⟨c, cs, hcs, hc⟩ := exists_writeInteger_eq_cons n
    have hread := readScalar_writeInteger word hrest
    rw [depth, if_pos (Nat.zero_le room), write]
    rw [hcs, List.cons_append] at hread ⊢
    rw [readValue_scalar (isSpace_of_startsInteger hc) (ne_of_startsInteger hc (by decide) rfl)
      (ne_of_startsInteger hc (by decide) rfl) (ne_of_startsInteger hc (by decide) rfl), hread]
  | .string s, _, fuel + 1, room, rest, _, _ => by
    rw [depth, if_pos (Nat.zero_le room), write, writeString_append,
      readValue.eq_2 _ fuel room _ (skipSpace_cons rfl _), readString_writeString]
    rfl
  | .array [], _, fuel + 1, room, rest, _, _ => by
    cases room with
    | zero => rw [depth]; rfl
    | succ room => rw [depth]; rfl
  | .array (j :: js), .array each, fuel + 1, room, rest, hfuel, _ => by
    obtain ⟨hj, hjs⟩ := List.forall_mem_cons.mp each
    obtain ⟨c, cs, hcs, hspace, hclose⟩ := exists_writeElements_eq_cons js hj
    have hwrite : (Json.array (j :: js)).write = '[' :: (writeElements (j :: js) ++ [']']) := rfl
    rw [hwrite, List.length_cons, List.length_append] at hfuel
    rw [hwrite, List.cons_append, List.append_assoc, List.singleton_append, depth]
    cases room with
    | zero => rw [readValue.eq_3 _ fuel _ (skipSpace_cons rfl _), if_neg (Nat.not_succ_le_zero _)]
    | succ room =>
      -- the elements have a bracket less on each side, and that is worth their fuel
      have helements := readElements_write hj hjs fuel room rest (by omega)
      rw [hcs, List.cons_append] at helements ⊢
      rw [readValue_array hspace hclose, helements, Option.map_if]
      simp only [Nat.succ_le_succ_iff]
  | .object [], _, fuel + 1, room, rest, _, _ => by
    cases room with
    | zero => rw [depth]; rfl
    | succ room => rw [depth]; rfl
  | .object ((key, j) :: ms), .object each, fuel + 1, room, rest, hfuel, _ => by
    obtain ⟨hj, hms⟩ : j.IsPlain ∧ ∀ m ∈ ms, m.2.IsPlain := List.forall_mem_cons.mp each
    obtain ⟨cs, hcs⟩ := exists_writeMembers_eq_cons key j ms
    have hwrite : (Json.object ((key, j) :: ms)).write =
      '\x7b' :: (writeMembers ((key, j) :: ms) ++ ['}']) := rfl
    rw [hwrite, List.length_cons, List.length_append] at hfuel
    rw [hwrite, List.cons_append, List.append_assoc, List.singleton_append, depth]
    cases room with
    | zero => rw [readValue.eq_5 _ fuel _ (skipSpace_cons rfl _), if_neg (Nat.not_succ_le_zero _)]
    | succ room =>
      have hmembers := readMembers_write hj hms key fuel room rest (by omega)
      rw [hcs, List.cons_append] at hmembers ⊢
      rw [readValue_object, hmembers, Option.map_if]
      simp only [Nat.succ_le_succ_iff]

theorem readElements_write : ∀ {j : Json} {js : List Json}, j.IsPlain → (∀ k ∈ js, k.IsPlain) →
    ∀ (fuel room : Nat) (rest : List Char), 2 * (writeElements (j :: js)).length + 1 < fuel →
    readElements fuel room (writeElements (j :: js) ++ ']' :: rest) =
      if depthList (j :: js) ≤ room then some (j :: js, rest) else none
  | j, [], hj, _, fuel + 1, room, rest, hfuel => by
    have hwrite : writeElements [j] = j.write := rfl
    rw [hwrite] at hfuel ⊢
    rw [depthList, depthList, Nat.max_zero]
    have hvalue := readValue_write hj fuel room _ (by omega) (endsValue_bracket rest)
    exact readElements_last fuel room hvalue
  | j, k :: ks, hj, hks, fuel + 1, room, rest, hfuel => by
    have hwrite : writeElements (j :: k :: ks) = j.write ++ ',' :: writeElements (k :: ks) := rfl
    rw [hwrite] at hfuel ⊢
    rw [List.length_append, List.length_cons] at hfuel
    have hvalue := readValue_write hj fuel room _ (by omega)
      (endsValue_comma (writeElements (k :: ks) ++ ']' :: rest))
    have hothers := readElements_write (hks k List.mem_cons_self)
      (fun l hl => hks l (List.mem_cons_of_mem k hl)) fuel room rest (by omega)
    rw [List.append_assoc, List.cons_append, readElements_more fuel room hvalue hothers,
      depthList.eq_2 j]
    simp only [Nat.max_le]

theorem readMembers_write : ∀ {j : Json} {ms : List (String × Json)}, j.IsPlain →
    (∀ m ∈ ms, m.2.IsPlain) → ∀ (key : String) (fuel room : Nat) (rest : List Char),
    2 * (writeMembers ((key, j) :: ms)).length + 1 < fuel →
    readMembers fuel room (writeMembers ((key, j) :: ms) ++ '}' :: rest) =
      if depthMembers ((key, j) :: ms) ≤ room then some ((key, j) :: ms, rest) else none
  | j, [], hj, _, key, fuel + 1, room, rest, hfuel => by
    have hwrite : writeMembers [(key, j)] = writeString key ++ ':' :: j.write := rfl
    rw [hwrite] at hfuel ⊢
    rw [List.length_append, List.length_cons] at hfuel
    have hvalue := readValue_write hj fuel room _ (by omega) (endsValue_brace rest)
    rw [List.append_assoc, List.cons_append, readMembers_last fuel room key hvalue, depthMembers,
      depthMembers, Nat.max_zero]
  | j, (next, k) :: ks, hj, hks, key, fuel + 1, room, rest, hfuel => by
    have hwrite : writeMembers ((key, j) :: (next, k) :: ks) =
      writeString key ++ ':' :: (j.write ++ ',' :: writeMembers ((next, k) :: ks)) := rfl
    obtain ⟨hk, hks⟩ : k.IsPlain ∧ ∀ m ∈ ks, m.2.IsPlain := List.forall_mem_cons.mp hks
    rw [hwrite] at hfuel ⊢
    rw [List.length_append, List.length_cons, List.length_append, List.length_cons] at hfuel
    have hvalue := readValue_write hj fuel room _ (by omega)
      (endsValue_comma (writeMembers ((next, k) :: ks) ++ '}' :: rest))
    have hothers := readMembers_write hk hks next fuel room rest (by omega)
    rw [List.append_assoc, List.cons_append, List.append_assoc, List.cons_append,
      readMembers_more fuel room key hvalue hothers, depthMembers.eq_2 key j]
    simp only [Nat.max_le]

end

/-- What was saved is read back exactly if it nests no deeper than a text may have it. -/
theorem read_render {j : Json} (h : j.IsPlain) :
    read j.render = if j.depth ≤ maxNesting then some j else none := by
  have hvalue := readValue_write h (2 * j.write.length + 1) maxNesting [] (by omega) endsValue_nil
  rw [List.append_nil] at hvalue
  rw [read, render, String.toList_ofList, hvalue]
  by_cases hdepth : j.depth ≤ maxNesting
  · rw [if_pos hdepth, if_pos hdepth]
    rfl
  · rw [if_neg hdepth, if_neg hdepth]

end CharacterSheet.Json
