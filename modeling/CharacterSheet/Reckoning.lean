/-!
# Reckoning

Numbers on a sheet have 64 bits and a sign, counts have 32 bits and none. A sum or a difference that
leaves its range goes around it and comes out modulo the number of its values. That is how a build
without overflow checks reckons; a build with them stops there instead, so whatever it does work out is
the same and exact.

This is where the two meet the integers. A sum is the exact sum, wrapped once (`sum_eq_ofInt`), and so
it is exact wherever the exact sum is in range (`toInt_sum`), in whatever order the numbers come
(`sum_eq_of_perm`). The same goes for counts (`toNat_total`).
-/

namespace CharacterSheet.Reckoning

/-! ## Numbers -/

/-- The integers that a number can be. -/
def InRange (n : Int) : Prop :=
  Int64.minValue.toInt ≤ n ∧ n ≤ Int64.maxValue.toInt
  deriving Decidable

theorem toInt_ofInt {n : Int} (h : InRange n) : (Int64.ofInt n).toInt = n :=
  Int64.toInt_ofInt_of_le h.1 (Int.lt_add_one_of_le h.2)

/-- An addition is exact where it is in range. -/
theorem toInt_add {n m : Int64} (h : InRange (n.toInt + m.toInt)) :
    (n + m).toInt = n.toInt + m.toInt := by
  have hadd : n + m = Int64.ofInt (n.toInt + m.toInt) := by
    rw [Int64.ofInt_add, Int64.ofInt_toInt, Int64.ofInt_toInt]
  rw [hadd, toInt_ofInt h]

/-- A difference is exact where it is in range. -/
theorem toInt_sub {n m : Int64} (h : InRange (n.toInt - m.toInt)) :
    (n - m).toInt = n.toInt - m.toInt := by
  have hsub : n - m = Int64.ofInt (n.toInt - m.toInt) := by
    rw [Int64.ofInt_sub, Int64.ofInt_toInt, Int64.ofInt_toInt]
  rw [hsub, toInt_ofInt h]

/-- The sum of numbers, added one by one. -/
def sum (ns : List Int64) : Int64 :=
  ns.foldl (· + ·) 0

/-- The sum of the same numbers as integers. -/
def exactSum (ns : List Int64) : Int :=
  ns.foldr (fun n rest => n.toInt + rest) 0

/-- The sum of numbers where every addition is checked. -/
def checkedSum? (ns : List Int64) : Option Int64 :=
  ns.foldlM (fun sum n => if InRange (sum.toInt + n.toInt) then some (sum + n) else none) 0

variable {ns ms : List Int64}

@[simp] theorem exactSum_nil : exactSum [] = 0 := rfl

@[simp] theorem exactSum_cons (n : Int64) (ns : List Int64) :
    exactSum (n :: ns) = n.toInt + exactSum ns := rfl

theorem foldl_add_eq (start : Int64) (ns : List Int64) :
    ns.foldl (· + ·) start = start + Int64.ofInt (exactSum ns) := by
  induction ns generalizing start with
  | nil => exact (Int64.add_zero start).symm
  | cons n rest ih =>
    rw [List.foldl_cons, ih, exactSum_cons, Int64.ofInt_add, Int64.ofInt_toInt, Int64.add_assoc]

/-- A sum is the exact sum, wrapped once. -/
theorem sum_eq_ofInt (ns : List Int64) : sum ns = Int64.ofInt (exactSum ns) := by
  rw [sum, foldl_add_eq, Int64.zero_add]

/-- Where the exact sum is in range, the sum is exact. -/
theorem toInt_sum (h : InRange (exactSum ns)) : (sum ns).toInt = exactSum ns := by
  rw [sum_eq_ofInt, toInt_ofInt h]

@[simp] theorem sum_nil : sum [] = 0 := rfl

@[simp] theorem sum_cons (n : Int64) (ns : List Int64) : sum (n :: ns) = n + sum ns := by
  rw [sum, List.foldl_cons, foldl_add_eq, Int64.zero_add, sum_eq_ofInt]

@[simp] theorem sum_append (ns ms : List Int64) : sum (ns ++ ms) = sum ns + sum ms := by
  rw [sum, List.foldl_append, foldl_add_eq, ← sum_eq_ofInt]
  rfl

/-- A sum does not depend on the order of its numbers. -/
theorem sum_eq_of_perm (h : ns.Perm ms) : sum ns = sum ms :=
  h.foldl_eq' (fun a _ b _ c => by rw [Int64.add_assoc, Int64.add_comm a b, ← Int64.add_assoc]) 0

theorem foldlM_checked {start n : Int64}
    (h : ns.foldlM (fun sum n => if InRange (sum.toInt + n.toInt) then some (sum + n) else none)
      start = some n) : n = start + sum ns ∧ n.toInt = start.toInt + exactSum ns := by
  induction ns generalizing start with
  | nil =>
    cases h
    exact ⟨(Int64.add_zero _).symm, (Int.add_zero _).symm⟩
  | cons m rest ih =>
    rw [List.foldlM_cons] at h
    split at h
    · next hrange =>
      obtain ⟨hsum, hexact⟩ := ih h
      refine ⟨by rw [hsum, sum_cons, Int64.add_assoc], ?_⟩
      rw [hexact, toInt_add hrange, exactSum_cons, Int.add_assoc]
    · cases h

/-- Checked additions that all get through have made the sum, and it is exact. -/
theorem sum_of_checkedSum? {n : Int64} (h : checkedSum? ns = some n) :
    sum ns = n ∧ n.toInt = exactSum ns := by
  obtain ⟨hsum, hexact⟩ := foldlM_checked h
  exact ⟨by rw [hsum, Int64.zero_add], by rw [hexact, Int64.toInt_zero, Int.zero_add]⟩

/-- A number is the sum of others, in a build with checks and in one without. -/
structure IsSumOf (n : Int64) (ns : List Int64) : Prop where
  reckoned : n = sum ns
  exact : InRange (exactSum ns) → n.toInt = exactSum ns
  checked : ∀ m, checkedSum? ns = some m → n = m ∧ m.toInt = exactSum ns

theorem isSumOf_sum (ns : List Int64) : IsSumOf (sum ns) ns :=
  ⟨rfl, toInt_sum, fun _ => sum_of_checkedSum?⟩

/-- A sum other than zero has a number other than zero in it. -/
theorem exists_mem_ne_zero (h : sum ns ≠ 0) : ∃ n ∈ ns, n ≠ 0 := by
  induction ns with
  | nil => exact absurd rfl h
  | cons n rest ih =>
    by_cases hn : n = 0
    · rw [hn, sum_cons, Int64.zero_add] at h
      obtain ⟨m, hm, hne⟩ := ih h
      exact ⟨m, List.mem_cons_of_mem _ hm, hne⟩
    · exact ⟨n, List.mem_cons_self, hn⟩

/-- Half of a number, rounded down. -/
def half (n : Int64) : Int64 :=
  Int64.ofInt (n.toInt.fdiv 2)

theorem toInt_half (n : Int64) : (half n).toInt = n.toInt.fdiv 2 := by
  apply toInt_ofInt
  have hle := n.minValue_le_toInt
  have hge := n.toInt_le
  rw [Int64.toInt_minValue] at hle
  rw [Int64.toInt_maxValue] at hge
  rw [InRange, Int64.toInt_minValue, Int64.toInt_maxValue,
    Int.fdiv_eq_ediv_of_nonneg _ (by decide)]
  omega

/-- A level as a number. -/
def ofLevel (level : UInt32) : Int64 :=
  Int64.ofNat level.toNat

theorem toInt_ofLevel (level : UInt32) : (ofLevel level).toInt = level.toNat := by
  have := level.toNat_lt
  exact Int64.toInt_ofNat_of_lt (by omega)

/-! ## The order of numbers -/

instance lawfulOrderMax : Std.LawfulOrderMax Int64 where
  max_eq_or a b := by
    change (if a ≤ b then b else a) = a ∨ (if a ≤ b then b else a) = b
    split
    · exact Or.inr rfl
    · exact Or.inl rfl
  max_le_iff a b c := by
    change (if a ≤ b then b else a) ≤ c ↔ _
    split
    · next h => exact ⟨fun hb => ⟨Int64.le_trans h hb, hb⟩, And.right⟩
    · next h =>
      have hba : b ≤ a := (Int64.le_total a b).resolve_left h
      exact ⟨fun ha => ⟨ha, Int64.le_trans hba ha⟩, And.left⟩

instance lawfulOrderMin : Std.LawfulOrderMin Int64 where
  min_eq_or a b := by
    change (if a ≤ b then a else b) = a ∨ (if a ≤ b then a else b) = b
    split
    · exact Or.inl rfl
    · exact Or.inr rfl
  le_min_iff a b c := by
    change a ≤ (if b ≤ c then b else c) ↔ _
    split
    · next h => exact ⟨fun hb => ⟨hb, Int64.le_trans hb h⟩, And.left⟩
    · next h =>
      have hcb : c ≤ b := (Int64.le_total b c).resolve_left h
      exact ⟨fun hc => ⟨Int64.le_trans hc hcb, hc⟩, And.right⟩

/-! ## Counts -/

/-- Several counts together, added one by one. -/
def total (counts : List UInt32) : UInt32 :=
  counts.foldl (· + ·) 0

/-- Several counts together, as a natural number. -/
def exactTotal (counts : List UInt32) : Nat :=
  counts.foldr (fun count rest => count.toNat + rest) 0

@[simp] theorem exactTotal_nil : exactTotal [] = 0 := rfl

@[simp] theorem exactTotal_cons (count : UInt32) (counts : List UInt32) :
    exactTotal (count :: counts) = count.toNat + exactTotal counts := rfl

theorem foldl_add_counts_eq (start : UInt32) (counts : List UInt32) :
    counts.foldl (· + ·) start = start + UInt32.ofNat (exactTotal counts) := by
  induction counts generalizing start with
  | nil => exact (UInt32.add_zero start).symm
  | cons count rest ih =>
    rw [List.foldl_cons, ih, exactTotal_cons, UInt32.ofNat_add, UInt32.ofNat_toNat,
      UInt32.add_assoc]

/-- Counts together are their exact total, wrapped once. -/
theorem total_eq_ofNat (counts : List UInt32) :
    total counts = UInt32.ofNat (exactTotal counts) := by
  rw [total, foldl_add_counts_eq, UInt32.zero_add]

/-- Where the exact total has 32 bits, counts together are exact. -/
theorem toNat_total {counts : List UInt32} (h : exactTotal counts < UInt32.size) :
    (total counts).toNat = exactTotal counts := by
  rw [total_eq_ofNat]
  exact UInt32.toNat_ofNat_of_lt' h

theorem exactTotal_replicate (n : Nat) (count : UInt32) :
    exactTotal (List.replicate n count) = n * count.toNat := by
  induction n with
  | zero => rw [List.replicate_zero, exactTotal_nil, Nat.zero_mul]
  | succ n ih => rw [List.replicate_succ, exactTotal_cons, ih, Nat.succ_mul, Nat.add_comm]

theorem exactTotal_append (counts more : List UInt32) :
    exactTotal (counts ++ more) = exactTotal counts + exactTotal more := by
  induction counts with
  | nil => exact (Nat.zero_add _).symm
  | cons count rest ih => rw [List.cons_append, exactTotal_cons, ih, exactTotal_cons, Nat.add_assoc]

end CharacterSheet.Reckoning
