/-!
# Whole numbers in decimal

Numbers in authored content are written as text: an optional sign, then one or more of the digits
`0` to `9`. A plus sign is always allowed, a minus sign only where the number may be negative, and
leading zeros do no harm. A number is good only inside the range of the field that it fills, which is
a word of 32 or 64 bits.

Writing uses the fewest digits, and reading what was written gives the number back
(`readNatural_writeNatural`, `readInteger_writeInteger`).
-/

namespace CharacterSheet.Text

/-! ## Ranges -/

/-- A number that fits an unsigned word of 32 bits. -/
def uint32? (n : Int) : Option UInt32 :=
  if 0 ≤ n ∧ n < UInt32.size then some (UInt32.ofNat n.toNat) else none

/-- A number that fits an unsigned word of 64 bits. -/
def uint64? (n : Int) : Option UInt64 :=
  if 0 ≤ n ∧ n < UInt64.size then some (UInt64.ofNat n.toNat) else none

/-- A number that fits a signed word of 64 bits. -/
def int64? (n : Int) : Option Int64 :=
  if Int64.minValue.toInt ≤ n ∧ n ≤ Int64.maxValue.toInt then some (Int64.ofInt n) else none

theorem uint32?_toNat (n : UInt32) : uint32? n.toNat = some n := by
  have hfits : (n.toNat : Int) < UInt32.size := Int.ofNat_lt.mpr n.toNat_lt_size
  rw [uint32?, if_pos ⟨Int.natCast_nonneg _, hfits⟩, Int.toNat_natCast, UInt32.ofNat_toNat]

theorem int64?_toInt (n : Int64) : int64? n.toInt = some n := by
  rw [int64?, if_pos ⟨n.minValue_le_toInt, n.toInt_le⟩, Int64.ofInt_toInt]

/-! ## Reading -/

/-- One or more digits. -/
def readDigits (s : List Char) : Option Nat :=
  if s ≠ [] ∧ s.all Char.isDigit then some (Nat.ofDigitChars 10 s 0) else none

/-- Digits, with or without a plus sign. -/
def readNatural : List Char → Option Nat
  | '+' :: s => readDigits s
  | s => readDigits s

/-- Digits, with or without a sign. -/
def readInteger : List Char → Option Int
  | '-' :: s => (readDigits s).map fun n => -(n : Int)
  | s => (readNatural s).map fun n => (n : Int)

/-- A text that is an unsigned number of 32 bits. -/
def readUInt32 (s : List Char) : Option UInt32 :=
  (readNatural s).bind fun n => uint32? n

/-- A text that is a signed number of 64 bits. -/
def readInt64 (s : List Char) : Option Int64 :=
  (readInteger s).bind int64?

/-! ## Writing -/

/-- The fewest digits of a number. -/
def writeNatural (n : Nat) : List Char :=
  Nat.toDigits 10 n

/-- The fewest digits of a number, after a minus sign if it is negative. -/
def writeInteger : Int → List Char
  | .ofNat n => writeNatural n
  | .negSucc n => '-' :: writeNatural (n + 1)

/-- The text of an unsigned number. -/
def natural (n : Nat) : String :=
  String.ofList (writeNatural n)

/-- The text of a signed number. -/
def integer (n : Int) : String :=
  String.ofList (writeInteger n)

/-! ## Reading what was written -/

theorem isDigit_of_mem_writeNatural {n : Nat} {c : Char} (h : c ∈ writeNatural n) :
    c.isDigit = true :=
  Nat.isDigit_of_mem_toDigits (by decide) (by decide) h

theorem writeNatural_ne_nil (n : Nat) : writeNatural n ≠ [] :=
  Nat.toDigits_ne_nil

theorem readDigits_writeNatural (n : Nat) : readDigits (writeNatural n) = some n := by
  have digits : (writeNatural n).all Char.isDigit = true :=
    List.all_eq_true.mpr fun _ h => isDigit_of_mem_writeNatural h
  rw [readDigits, if_pos ⟨writeNatural_ne_nil n, digits⟩, writeNatural, Nat.ofDigitChars_ten_toDigits]

/-- A text of digits starts with no sign. -/
theorem readNatural_of_isDigit {s : List Char} (h : ∀ c ∈ s.head?, c.isDigit = true) :
    readNatural s = readDigits s := by
  unfold readNatural
  split
  · exact absurd (h '+' (by simp)) (by decide)
  · rfl

theorem readInteger_of_isDigit {s : List Char} (h : ∀ c ∈ s.head?, c.isDigit = true) :
    readInteger s = (readDigits s).map fun n => (n : Int) := by
  unfold readInteger
  split
  · exact absurd (h '-' (by simp)) (by decide)
  · rw [readNatural_of_isDigit h]

theorem isDigit_head?_writeNatural (n : Nat) : ∀ c ∈ (writeNatural n).head?, c.isDigit = true :=
  fun _ h => isDigit_of_mem_writeNatural (List.mem_of_mem_head? h)

theorem readNatural_writeNatural (n : Nat) : readNatural (writeNatural n) = some n := by
  rw [readNatural_of_isDigit (isDigit_head?_writeNatural n), readDigits_writeNatural]

theorem readInteger_writeInteger (n : Int) : readInteger (writeInteger n) = some n := by
  cases n with
  | ofNat n =>
    rw [writeInteger, readInteger_of_isDigit (isDigit_head?_writeNatural n), readDigits_writeNatural]
    rfl
  | negSucc n =>
    simp only [writeInteger, readInteger, readDigits_writeNatural]
    rfl

theorem readUInt32_writeNatural (n : UInt32) : readUInt32 (writeNatural n.toNat) = some n := by
  rw [readUInt32, readNatural_writeNatural, Option.bind_some, uint32?_toNat]

theorem readInt64_writeInteger (n : Int64) : readInt64 (writeInteger n.toInt) = some n := by
  rw [readInt64, readInteger_writeInteger, Option.bind_some, int64?_toInt]

end CharacterSheet.Text
