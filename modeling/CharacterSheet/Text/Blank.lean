/-!
# Blank characters

Authored content is typed by hand, so every reader of a requirement first strips the blanks around
it. A blank is a character with the Unicode property White_Space: the no-break space and the
ideographic space are blanks, the zero-width space and the byte order mark are not.

`trim` removes the blanks at both ends, `words` cuts a text into its blank-separated words. Both
work on lists of characters; the text of a domain value is a `String`, and goes through
`String.toList` on its way here.
-/

namespace CharacterSheet.Text

/-- Unicode White_Space: tab to carriage return, space, next line, no-break space, ogham space, the
spaces of general punctuation, both separators and the ideographic space. -/
def isBlank (c : Char) : Bool :=
  let n := c.toNat
  (0x09 ≤ n && n ≤ 0x0D) || n == 0x20 || n == 0x85 || n == 0xA0 || n == 0x1680 ||
    (0x2000 ≤ n && n ≤ 0x200A) || n == 0x2028 || n == 0x2029 || n == 0x202F || n == 0x205F ||
    n == 0x3000

/-- A text without the blanks at its two ends. -/
def trim (s : List Char) : List Char :=
  ((s.dropWhile isBlank).reverse.dropWhile isBlank).reverse

/-- A text in which nothing but blanks stands. -/
def isBlankText (s : String) : Bool :=
  s.toList.all isBlank

/-- The words of a text, where `word` is the part of the current word that was already read. -/
def wordsFrom (word : List Char) : List Char → List (List Char)
  | [] => if word.isEmpty then [] else [word]
  | c :: rest =>
    if isBlank c then
      if word.isEmpty then wordsFrom [] rest else word :: wordsFrom [] rest
    else wordsFrom (word ++ [c]) rest

/-- The longest runs of characters that are not blank, in order. -/
def words (s : List Char) : List (List Char) :=
  wordsFrom [] s

/-! ## What the two leave behind -/

/-- A text that neither starts nor ends with a blank stays as it is. -/
theorem trim_eq_self {s : List Char} (first : ∀ c ∈ s.head?, isBlank c = false)
    (last : ∀ c ∈ s.getLast?, isBlank c = false) : trim s = s := by
  have keep : ∀ {t : List Char}, (∀ c ∈ t.head?, isBlank c = false) → t.dropWhile isBlank = t := by
    intro t h
    cases t with
    | nil => rfl
    | cons c t => simp [h c (by simp)]
  rw [trim, keep first, keep, List.reverse_reverse]
  simpa using last

/-- No word is empty, and no word holds a blank. -/
theorem mem_wordsFrom {word s w : List Char} (inside : ∀ c ∈ word, isBlank c = false)
    (h : w ∈ wordsFrom word s) : w ≠ [] ∧ ∀ c ∈ w, isBlank c = false := by
  induction s generalizing word with
  | nil =>
    simp only [wordsFrom] at h
    split at h
    · simp at h
    · next hne =>
      obtain rfl := List.mem_singleton.mp h
      exact ⟨by simpa using hne, inside⟩
  | cons c s ih =>
    simp only [wordsFrom] at h
    split at h
    · split at h
      · exact ih (by simp) h
      · next hne =>
        rcases List.mem_cons.mp h with rfl | h
        · exact ⟨by simpa using hne, inside⟩
        · exact ih (by simp) h
    · next hc =>
      refine ih (fun d hd => ?_) h
      rcases List.mem_append.mp hd with hd | hd
      · exact inside d hd
      · obtain rfl := List.mem_singleton.mp hd
        simpa using hc

end CharacterSheet.Text
