/-!
# Numbers too large for binary64

No field of a sheet takes a number with a point or an exponent, and none takes a number beyond the
64-bit words. Such a number is still well formed JSON, unless it is too large for binary64.

The size of a number is worked out in three steps. Its digits are taken as one significand of 64
bits: once the next digit would not fit, a digit in front of the point counts as a power of ten and a
digit after the point is dropped. The powers of ten and the exponent then give one decimal scale. At
last significand and scale are each rounded to the 53 bits of binary64, and their product must stay
below the point from which it would round to infinity. Everything here is exact arithmetic on natural
numbers.
-/

namespace CharacterSheet.Json

/-- The number rounded to 53 significant bits, a tie to the even neighbour. -/
def round53 (n : Nat) : Nat :=
  if n < Nat.pow 2 53 then n
  else
    let unit := Nat.pow 2 (Nat.log2 n - 52)
    let quotient := n / unit
    let excess := 2 * (n % unit)
    if unit < excess ∨ (unit = excess ∧ quotient % 2 = 1) then (quotient + 1) * unit
    else quotient * unit

/-- Takes digits while the significand fits 64 bits; the result is the significand with the digits
that are left over. -/
def takeSignificand (significand : Nat) : List Char → Nat × List Char
  | [] => (significand, [])
  | d :: digits =>
    let next := 10 * significand + (d.toNat - '0'.toNat)
    if next < Nat.pow 2 64 then takeSignificand next digits else (significand, d :: digits)

/-- Whether the number with these digits before the point, these digits after it and this exponent
is below the range in which binary64 rounds to infinity. -/
def isFinite (whole fraction : List Char) (exponent : Int) : Bool :=
  let (high, dropped) := takeSignificand 0 whole
  let (significand, ignored) := takeSignificand high fraction
  let scale := exponent + dropped.length - (fraction.length - ignored.length)
  significand == 0 || scale < 0 ||
    (scale ≤ 308 && round53 significand * round53 (Nat.pow 10 scale.toNat) <
      Nat.pow 2 1024 - Nat.pow 2 970)

example : isFinite ['1'] [] 308 = true ∧ isFinite ['2'] [] 308 = false := by decide +kernel
example : isFinite ['0'] [] 999999 = true ∧ isFinite ['1'] [] 309 = false := by decide +kernel

end CharacterSheet.Json
