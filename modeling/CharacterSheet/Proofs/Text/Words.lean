import CharacterSheet.Text.Blank
import CharacterSheet.Text.Lowercase
import CharacterSheet.Text.Numeral

/-!
# Words and numbers among blanks

What the readers of requirements rely on: trimming leaves no blank at either end, a number has no
blanks in it but at least one digit, and two words with a space between them are read as these two
words.
-/

namespace CharacterSheet.Text

/-! ## Trimming -/

theorem trim_of_forall {s : List Char} (h : ∀ c ∈ s, isBlank c = false) : trim s = s :=
  trim_eq_self (fun c hc => h c (List.mem_of_mem_head? hc))
    fun c hc => h c (List.mem_of_mem_getLast? hc)

theorem isBlank_of_mem_getLast?_trim {s : List Char} {c : Char} (h : c ∈ (trim s).getLast?) :
    isBlank c = false := by
  rw [trim, List.getLast?_reverse] at h
  have hhead := List.head?_dropWhile_not isBlank (s.dropWhile isBlank).reverse
  rw [h] at hhead
  exact hhead

theorem mem_of_mem_trim {s : List Char} {c : Char} (h : c ∈ trim s) : c ∈ s := by
  rw [trim, List.mem_reverse] at h
  have hfront := (List.dropWhile_sublist isBlank).subset h
  exact (List.dropWhile_sublist isBlank).subset (List.mem_reverse.mp hfront)

/-! ## Numbers -/

theorem toNat_of_isDigit {c : Char} (h : c.isDigit = true) : 48 ≤ c.toNat ∧ c.toNat ≤ 57 := by
  simpa [Char.isDigit, UInt32.le_iff_toNat_le] using h

theorem isBlank_of_isDigit {c : Char} (h : c.isDigit = true) : isBlank c = false := by
  have hrange := toNat_of_isDigit h
  simp [isBlank]
  omega

theorem toLower_of_isDigit {c : Char} (h : c.isDigit = true) : c.toLower = c := by
  have hrange := toNat_of_isDigit h
  refine dif_neg ?_
  rintro ⟨hupper, -⟩
  have : 65 ≤ c.toNat := by simpa using UInt32.le_iff_toNat_le.mp hupper
  omega

theorem isBlank_of_mem_writeNatural {n : Nat} {c : Char} (h : c ∈ writeNatural n) :
    isBlank c = false :=
  isBlank_of_isDigit (isDigit_of_mem_writeNatural h)

theorem isBlank_of_mem_writeInteger {n : Int} {c : Char} (h : c ∈ writeInteger n) :
    isBlank c = false := by
  cases n with
  | ofNat n => exact isBlank_of_mem_writeNatural h
  | negSucc n =>
    rcases List.mem_cons.mp h with rfl | h
    · decide
    · exact isBlank_of_mem_writeNatural h

theorem writeInteger_ne_nil (n : Int) : writeInteger n ≠ [] := by
  cases n with
  | ofNat n => exact writeNatural_ne_nil n
  | negSucc n => exact List.cons_ne_nil _ _

theorem trim_writeNatural (n : Nat) : trim (writeNatural n) = writeNatural n :=
  trim_of_forall fun _ => isBlank_of_mem_writeNatural

theorem trim_writeInteger (n : Int) : trim (writeInteger n) = writeInteger n :=
  trim_of_forall fun _ => isBlank_of_mem_writeInteger

/-! ## Digits of numbers -/

theorem exists_isDigit_of_readDigits {s : List Char} {n : Nat} (h : readDigits s = some n) :
    ∃ c ∈ s, c.isDigit = true := by
  unfold readDigits at h
  split at h
  · next hdigits =>
    obtain ⟨hne, hall⟩ := hdigits
    obtain ⟨c, hc⟩ := List.exists_mem_of_ne_nil s hne
    exact ⟨c, hc, List.all_eq_true.mp hall c hc⟩
  · cases h

theorem exists_isDigit_of_readNatural {s : List Char} {n : Nat} (h : readNatural s = some n) :
    ∃ c ∈ s, c.isDigit = true := by
  unfold readNatural at h
  split at h
  · obtain ⟨c, hc, hdigit⟩ := exists_isDigit_of_readDigits h
    exact ⟨c, List.mem_cons_of_mem _ hc, hdigit⟩
  · exact exists_isDigit_of_readDigits h

theorem exists_isDigit_of_readInt64 {s : List Char} {n : Int64} (h : readInt64 s = some n) :
    ∃ c ∈ s, c.isDigit = true := by
  obtain ⟨m, hm, -⟩ := Option.bind_eq_some_iff.mp h
  unfold readInteger at hm
  split at hm
  · obtain ⟨k, hk, -⟩ := Option.map_eq_some_iff.mp hm
    obtain ⟨digits, hdigits, -⟩ := Option.bind_eq_some_iff.mp hk
    obtain ⟨c, hc, hdigit⟩ := exists_isDigit_of_readDigits hdigits
    exact ⟨c, List.mem_cons_of_mem _ hc, hdigit⟩
  · obtain ⟨k, hk, -⟩ := Option.map_eq_some_iff.mp hm
    obtain ⟨digits, hdigits, -⟩ := Option.bind_eq_some_iff.mp hk
    exact exists_isDigit_of_readNatural hdigits

/-- A text with a digit is not a word without digits, whatever the case. -/
theorem sameAsciiLowercase_eq_false_of_isDigit {s t : String} {c : Char} (hc : c ∈ s.toList)
    (hdigit : c.isDigit = true) (ht : (t.toList.map Char.toLower).any Char.isDigit = false) :
    sameAsciiLowercase s t = false := by
  rw [sameAsciiLowercase, beq_eq_false_iff_ne]
  intro hsame
  have hmem : c.toLower ∈ t.toList.map Char.toLower := hsame ▸ List.mem_map_of_mem hc
  rw [toLower_of_isDigit hdigit] at hmem
  exact List.any_eq_false.mp ht c hmem hdigit

/-! ## Words -/

/-- Characters that are not blank only make the current word longer. -/
theorem wordsFrom_append {s : List Char} (h : ∀ c ∈ s, isBlank c = false) (word rest : List Char) :
    wordsFrom word (s ++ rest) = wordsFrom (word ++ s) rest := by
  induction s generalizing word with
  | nil => rw [List.nil_append, List.append_nil]
  | cons c s ih =>
    obtain ⟨hc, hs⟩ := List.forall_mem_cons.mp h
    rw [List.cons_append, wordsFrom, hc]
    simp only [Bool.false_eq_true, if_false]
    rw [ih hs, List.append_assoc, List.singleton_append]

theorem words_of_forall {s : List Char} (hne : s ≠ []) (h : ∀ c ∈ s, isBlank c = false) :
    words s = [s] := by
  have hword := wordsFrom_append h [] []
  rw [List.append_nil, List.nil_append] at hword
  rw [words, hword, wordsFrom, if_neg (by simpa using hne)]

/-- Two words with a space between them. -/
theorem words_append_space {s t : List Char} (hs : s ≠ []) (ht : t ≠ [])
    (hsblank : ∀ c ∈ s, isBlank c = false) (htblank : ∀ c ∈ t, isBlank c = false) :
    words (s ++ ' ' :: t) = [s, t] := by
  have hspace : isBlank ' ' = true := by decide
  have hrest : wordsFrom [] t = [t] := words_of_forall ht htblank
  rw [words, wordsFrom_append hsblank, List.nil_append, wordsFrom, if_pos hspace,
    if_neg (by simpa using hs), hrest]

end CharacterSheet.Text
