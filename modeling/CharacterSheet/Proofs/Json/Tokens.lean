import CharacterSheet.Json.Reader
import CharacterSheet.Json.Writer
import Mathlib.Algebra.Ring.Int.Defs
import Mathlib.Algebra.Ring.Nat

/-!
# Tokens are read as they were written

A string or a whole number that the writer wrote is read back, and the reader stops right behind it.
For a string its closing quote sees to that. A number ends where its digits end, so what follows must
not go on as a number could; behind a value of a file there is a comma, a closing bracket or nothing
(`EndsValue`).
-/

namespace CharacterSheet.Json

/-! ## Strings -/

theorem hexDigit?_hexDigit {n : Nat} (h : n < 16) : hexDigit? (hexDigit n) = some n := by
  have all : ∀ n < 16, hexDigit? (hexDigit n) = some n := by decide
  exact all n h

/-- A number below 256 has two hexadecimal digits behind two zeros. -/
theorem hex4?_hexDigit {n : Nat} (h : n < 256) :
    hex4? '0' '0' (hexDigit (n / 16)) (hexDigit (n % 16)) = some n := by
  have zero : hexDigit? '0' = some 0 := by decide
  have high := hexDigit?_hexDigit (n := n / 16) (by omega)
  have low := hexDigit?_hexDigit (n := n % 16) (by omega)
  simp only [hex4?, zero, high, low, Option.bind_eq_bind, Option.bind_some, Option.pure_def]
  congr 1
  omega

/-- A character is written as a letter behind a backslash, as a code, or as it is. -/
theorem escape_cases (c : Char) :
    (∃ e, e ≠ 'u' ∧ escape? e = some c ∧ escape c = ['\\', e]) ∨
      (c.toNat < 0x20 ∧ escape c =
        ['\\', 'u', '0', '0', hexDigit (c.toNat / 16), hexDigit (c.toNat % 16)]) ∨
      (c ≠ '"' ∧ c ≠ '\\' ∧ 0x20 ≤ c.toNat ∧ escape c = [c]) := by
  by_cases hletter : c ∈ ['"', '\\', '\x08', '\x0c', '\n', '\r', '\t']
  · left
    simp only [List.mem_cons, List.not_mem_nil, or_false] at hletter
    rcases hletter with rfl | rfl | rfl | rfl | rfl | rfl | rfl
    · exact ⟨'"', by decide, rfl, rfl⟩
    · exact ⟨'\\', by decide, rfl, rfl⟩
    · exact ⟨'b', by decide, rfl, rfl⟩
    · exact ⟨'f', by decide, rfl, rfl⟩
    · exact ⟨'n', by decide, rfl, rfl⟩
    · exact ⟨'r', by decide, rfl, rfl⟩
    · exact ⟨'t', by decide, rfl, rfl⟩
  · right
    simp only [List.mem_cons, List.not_mem_nil, or_false, not_or] at hletter
    obtain ⟨hquote, hback, hb, hf, hn, hr, ht⟩ := hletter
    by_cases hcontrol : c.toNat < 0x20
    · left
      simp only [escape, hquote, hback, hb, hf, hn, hr, ht, hcontrol, if_true, if_false, and_self]
    · right
      refine ⟨hquote, hback, Nat.le_of_not_lt hcontrol, ?_⟩
      simp only [escape, hquote, hback, hb, hf, hn, hr, ht, hcontrol, if_false]

/-- A character as it stands in a string is one code. -/
theorem readCodes_escape (c : Char) (rest : List Char) :
    readCodes (escape c ++ rest) =
      (readCodes rest).map fun (codes, rest) => (c.toNat :: codes, rest) := by
  rcases escape_cases c with ⟨e, hu, he, hc⟩ | ⟨hcontrol, hc⟩ | ⟨hquote, hback, hcontrol, hc⟩
  · rw [hc, List.cons_append, List.singleton_append,
      readCodes.eq_4 e rest fun _ _ _ _ _ h => absurd h hu, he]
    cases readCodes rest <;> rfl
  · have hex := hex4?_hexDigit (n := c.toNat) (by omega)
    rw [hc]
    simp only [List.cons_append, List.nil_append]
    rw [readCodes.eq_3, hex]
    cases readCodes rest <;> rfl
  · rw [hc, List.singleton_append, readCodes.eq_5 c rest hquote (fun _ _ _ _ _ h => absurd h hback)
      (fun _ _ h => absurd h hback), if_neg (by simp [hback]; omega)]
    cases readCodes rest <;> rfl

/-- The codes of a string up to its closing quote. -/
theorem readCodes_flatMap_escape (cs rest : List Char) :
    readCodes (cs.flatMap escape ++ '"' :: rest) = some (cs.map Char.toNat, rest) := by
  induction cs with
  | nil => rw [List.flatMap_nil, List.nil_append, readCodes.eq_2, List.map_nil]
  | cons c cs ih =>
    rw [List.flatMap_cons, List.append_assoc, readCodes_escape, ih]
    rfl

/-- Characters are no surrogates, so their codes stand for themselves. -/
theorem joinSurrogates_map_toNat (cs : List Char) : joinSurrogates (cs.map Char.toNat) = some cs := by
  induction cs with
  | nil => rfl
  | cons c cs ih =>
    have hvalid : c.toNat < 0xD800 ∨ 0xDFFF < c.toNat := c.valid.imp_right And.left
    have hhigh : isHighSurrogate c.toNat = false := by
      simp [isHighSurrogate]
      omega
    have hlow : isLowSurrogate c.toNat = false := by
      simp [isLowSurrogate]
      omega
    rw [List.map_cons, joinSurrogates.eq_def]
    simp [hhigh, hlow, ih]

theorem readString_writeString (s : String) (rest : List Char) :
    readString (s.toList.flatMap escape ++ '"' :: rest) = some (s, rest) := by
  simp only [readString, readCodes_flatMap_escape, joinSurrogates_map_toNat, Option.bind_eq_bind,
    Option.bind_some, Option.pure_def, String.ofList_toList]

/-! ## Whole numbers -/

/-- What may stand behind a value: nothing, or what separates or closes values. -/
def EndsValue (rest : List Char) : Prop :=
  ∀ c ∈ rest.head?, c = ',' ∨ c = ']' ∨ c = '}'

theorem endsValue_nil : EndsValue [] := by simp [EndsValue]

theorem endsValue_comma (rest : List Char) : EndsValue (',' :: rest) := by simp [EndsValue]

theorem endsValue_bracket (rest : List Char) : EndsValue (']' :: rest) := by simp [EndsValue]

theorem endsValue_brace (rest : List Char) : EndsValue ('}' :: rest) := by simp [EndsValue]

/-- Digits are read up to where they end. -/
theorem spanDigits_append {digits rest : List Char} (h : ∀ c ∈ digits, c.isDigit = true)
    (hrest : EndsValue rest) : spanDigits (digits ++ rest) = (digits, rest) := by
  have hstop : ∀ c ∈ rest.head?, c.isDigit = false := by
    intro c hc
    rcases hrest c hc with rfl | rfl | rfl <;> decide
  rw [spanDigits, List.takeWhile_append_of_pos h, List.dropWhile_append_of_pos h]
  cases rest with
  | nil => simp
  | cons c rest =>
    have hc := hstop c rfl
    simp [hc]

theorem readFraction_of_endsValue {rest : List Char} (h : EndsValue rest) :
    readFraction rest = some (none, rest) := by
  cases rest with
  | nil => rfl
  | cons c rest => rcases h c rfl with rfl | rfl | rfl <;> rfl

theorem readExponent_of_endsValue {rest : List Char} (h : EndsValue rest) :
    readExponent rest = some (none, rest) := by
  cases rest with
  | nil => rfl
  | cons c rest => rcases h c rfl with rfl | rfl | rfl <;> rfl

/-- A number that is not zero does not start with the digit zero. -/
theorem exists_writeNatural_eq_cons {n : Nat} (hn : 0 < n) :
    ∃ c cs, Text.writeNatural n = c :: cs ∧ c ≠ '0' := by
  -- the first digit is that of a tenth of the number, down to a single digit
  induction n using Nat.strongRecOn with
  | ind n ih =>
    by_cases hlt : n < 10
    · have digits : ∀ n < 10, 0 < n → n.digitChar ≠ '0' := by decide
      exact ⟨n.digitChar, [], Nat.toDigits_of_lt_base hlt, digits n hlt hn⟩
    · obtain ⟨c, cs, hcs, hc⟩ := ih (n / 10) (by omega) (by omega)
      refine ⟨c, cs ++ [(n % 10).digitChar], ?_, hc⟩
      rw [Text.writeNatural, Nat.toDigits_of_base_le (by decide) (by omega)]
      exact congrArg (· ++ _) hcs

theorem isWhole_writeNatural (n : Nat) : isWhole (Text.writeNatural n) = true := by
  cases n with
  | zero => rfl
  | succ n =>
    obtain ⟨c, cs, hcs, hc⟩ := exists_writeNatural_eq_cons (Nat.succ_pos n)
    rw [hcs, isWhole.eq_3 c cs fun h => absurd h hc]
    simpa using hc

/-- The number fits a signed or an unsigned word of 64 bits. -/
def InWord (n : Int) : Prop := -2 ^ 63 ≤ n ∧ n < 2 ^ 64

/-- The digits of a number are read as the number, with the sign that stood before them. -/
theorem readUnsigned_writeNatural {n : Nat} {rest : List Char} (negative : Bool) (text : List Char)
    (hword : if negative then 0 < n ∧ n ≤ 2 ^ 63 else n < 2 ^ 64) (hrest : EndsValue rest) :
    readUnsigned negative text (Text.writeNatural n ++ rest) =
      some (.integer (if negative then -(n : Int) else n), rest) := by
  have hspan := spanDigits_append (fun c hc => Text.isDigit_of_mem_writeNatural (n := n) hc) hrest
  have hvalue : Nat.ofDigitChars 10 (Text.writeNatural n) 0 = n := Nat.ofDigitChars_ten_toDigits
  have hnumber : numberOf (text.take (text.length - rest.length)) negative (Text.writeNatural n)
      none none = some (.integer (if negative then -(n : Int) else n)) := by
    rw [numberOf, hvalue]
    cases negative with
    | true => simp_all
    | false => simp_all
  rw [readUnsigned, hspan]
  simp [isWhole_writeNatural, readFraction_of_endsValue hrest, readExponent_of_endsValue hrest,
    hnumber]

/-- A number starts with its sign or with a digit. -/
theorem exists_writeInteger_eq_cons (n : Int) :
    ∃ c cs, Text.writeInteger n = c :: cs ∧ (c = '-' ∨ c.isDigit = true) := by
  cases n with
  | ofNat n =>
    obtain ⟨c, cs, hcs⟩ := List.exists_cons_of_ne_nil (Text.writeNatural_ne_nil n)
    have hdigit := Text.isDigit_of_mem_writeNatural (n := n) (hcs ▸ List.mem_cons_self)
    exact ⟨c, cs, hcs, Or.inr hdigit⟩
  | negSucc n => exact ⟨'-', _, rfl, Or.inl rfl⟩

/-- So it starts neither as another value could start nor with a space. -/
theorem ne_of_startsInteger {c d : Char} (hc : c = '-' ∨ c.isDigit = true) (hsign : d ≠ '-')
    (hdigit : d.isDigit = false) : c ≠ d := by
  rintro rfl
  rcases hc with hc | hc
  · exact hsign hc
  · exact Bool.false_ne_true (hdigit.symm.trans hc)

theorem readNumber_writeInteger {n : Int} {rest : List Char} (hword : InWord n)
    (hrest : EndsValue rest) :
    readNumber (Text.writeInteger n ++ rest) = some (.integer n, rest) := by
  obtain ⟨hlow, hhigh⟩ := hword
  cases n with
  | ofNat n =>
    obtain ⟨c, cs, hcs⟩ := List.exists_cons_of_ne_nil (Text.writeNatural_ne_nil n)
    have hdigit := Text.isDigit_of_mem_writeNatural (n := n) (hcs ▸ List.mem_cons_self)
    have hsign : ∀ s, Text.writeNatural n ++ rest ≠ '-' :: s := by
      intro s h
      rw [hcs] at h
      obtain ⟨rfl, -⟩ := List.cons_eq_cons.mp h
      cases hdigit
    have hfits : n < 2 ^ 64 := by
      rw [Int.ofNat_eq_natCast] at hhigh
      omega
    rw [Text.writeInteger, readNumber.eq_2 _ hsign,
      readUnsigned_writeNatural false _ (by simpa using hfits) hrest]
    rfl
  | negSucc n =>
    have hfits : n + 1 ≤ 2 ^ 63 := by omega
    rw [Text.writeInteger, List.cons_append, readNumber,
      readUnsigned_writeNatural true _ (by simpa using hfits) hrest]
    rfl

theorem readScalar_writeInteger {n : Int} {rest : List Char} (hword : InWord n)
    (hrest : EndsValue rest) :
    readScalar (Text.writeInteger n ++ rest) = some (.integer n, rest) := by
  obtain ⟨c, cs, hcs, hc⟩ := exists_writeInteger_eq_cons n
  have hletter : ∀ letter s, letter ≠ '-' → letter.isDigit = false →
      Text.writeInteger n ++ rest ≠ letter :: s := by
    intro letter s hsign hdigit h
    rw [hcs] at h
    exact ne_of_startsInteger hc hsign hdigit (List.cons_eq_cons.mp h).1
  rw [readScalar.eq_4 _ (fun _ => hletter 'n' _ (by decide) rfl)
    (fun _ => hletter 't' _ (by decide) rfl) (fun _ => hletter 'f' _ (by decide) rfl),
    readNumber_writeInteger hword hrest]

end CharacterSheet.Json
