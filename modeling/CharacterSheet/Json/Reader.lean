import CharacterSheet.Json.Value
import CharacterSheet.Json.Magnitude
import CharacterSheet.Text.Numeral

/-!
# Reading JSON

The strict grammar of RFC 8259: four kinds of space, no comments, no trailing commas, no leading zeros
and no plus sign, no raw control characters in a string, no lone surrogates, nothing after the value.
Two limits come on top, the nesting of arrays and objects and the size of numbers
(`CharacterSheet.Json.Magnitude`).

Every reader takes the characters that are left and gives what it read with the characters after it,
or nothing if the text does not go on as it should. The recursive readers are structural in a fuel
that `read` computes from the length of the text, and count down the nesting that is still allowed.
-/

namespace CharacterSheet.Json

/-! ## Leaves -/

/-- The characters that may stand between the tokens. -/
def isSpace (c : Char) : Bool :=
  c == ' ' || c == '\t' || c == '\n' || c == '\r'

/-- The text from its first token on. -/
def skipSpace (s : List Char) : List Char :=
  s.dropWhile isSpace

/-- The value of a hexadecimal digit. -/
def hexDigit? (c : Char) : Option Nat :=
  if '0' ≤ c ∧ c ≤ '9' then some (c.toNat - '0'.toNat)
  else if 'a' ≤ c ∧ c ≤ 'f' then some (c.toNat - 'a'.toNat + 10)
  else if 'A' ≤ c ∧ c ≤ 'F' then some (c.toNat - 'A'.toNat + 10)
  else none

/-- The number that four hexadecimal digits make. -/
def hex4? (a b c d : Char) : Option Nat := do
  let a ← hexDigit? a
  let b ← hexDigit? b
  let c ← hexDigit? c
  let d ← hexDigit? d
  return ((a * 16 + b) * 16 + c) * 16 + d

/-- The character that a backslash and this letter stand for. -/
def escape? : Char → Option Char
  | '"' => some '"'
  | '\\' => some '\\'
  | '/' => some '/'
  | 'b' => some '\x08'
  | 'f' => some '\x0c'
  | 'n' => some '\n'
  | 'r' => some '\r'
  | 't' => some '\t'
  | _ => none

/-- The code points of a string up to its closing quote. Surrogates stand as they are: only an escape
can bring one in. -/
def readCodes : List Char → Option (List Nat × List Char)
  | [] => none
  | '"' :: rest => some ([], rest)
  | '\\' :: 'u' :: a :: b :: c :: d :: rest => do
    let code ← hex4? a b c d
    let (codes, rest) ← readCodes rest
    return (code :: codes, rest)
  | '\\' :: e :: rest => do
    let c ← escape? e
    let (codes, rest) ← readCodes rest
    return (c.toNat :: codes, rest)
  | c :: rest =>
    if c.toNat < 0x20 ∨ c = '\\' then none
    else do
      let (codes, rest) ← readCodes rest
      return (c.toNat :: codes, rest)

/-- First half of a pair that stands for one character. -/
def isHighSurrogate (code : Nat) : Bool := 0xD800 ≤ code && code < 0xDC00

/-- Second half of a pair that stands for one character. -/
def isLowSurrogate (code : Nat) : Bool := 0xDC00 ≤ code && code < 0xE000

/-- The characters of a list of codes; a surrogate outside a pair has none. -/
def joinSurrogates : List Nat → Option (List Char)
  | [] => some []
  | high :: rest =>
    if isHighSurrogate high then
      match rest with
      | low :: rest =>
        if isLowSurrogate low then do
          let cs ← joinSurrogates rest
          return Char.ofNat (0x10000 + (high - 0xD800) * 0x400 + (low - 0xDC00)) :: cs
        else none
      | [] => none
    else if isLowSurrogate high then none
    else do
      let cs ← joinSurrogates rest
      return Char.ofNat high :: cs

/-- A string, from behind its opening quote. -/
def readString (s : List Char) : Option (String × List Char) := do
  let (codes, rest) ← readCodes s
  let cs ← joinSurrogates codes
  return (String.ofList cs, rest)

/-! ## Numbers -/

/-- The digits at the start of a text, and the text behind them. -/
def spanDigits (s : List Char) : List Char × List Char :=
  (s.takeWhile Char.isDigit, s.dropWhile Char.isDigit)

/-- The digits after the point, if there is a point. At least one must follow it. -/
def readFraction : List Char → Option (Option (List Char) × List Char)
  | '.' :: s =>
    let (digits, rest) := spanDigits s
    if digits.isEmpty then none else some (some digits, rest)
  | s => some (none, s)

/-- The sign of an exponent: whether it is a minus. -/
def readExponentSign : List Char → Bool × List Char
  | '-' :: s => (true, s)
  | '+' :: s => (false, s)
  | s => (false, s)

/-- The exponent, if there is one. At least one digit must follow its mark. -/
def readExponent : List Char → Option (Option Int × List Char)
  | c :: s =>
    if c = 'e' ∨ c = 'E' then
      let (negative, s) := readExponentSign s
      let (digits, rest) := spanDigits s
      if digits.isEmpty then none
      else
        let n : Int := Nat.ofDigitChars 10 digits 0
        some (some (if negative then -n else n), rest)
    else some (none, c :: s)
  | [] => some (none, [])

/-- Digits that may stand in front of the point: no zero but a lone one leads. -/
def isWhole : List Char → Bool
  | [] => false
  | ['0'] => true
  | c :: _ => c != '0'

/-- The value of a number whose parts are known. Minus zero is no whole number, and neither is one
beyond the words of 64 bits. -/
def numberOf (text : List Char) (negative : Bool) (whole : List Char) (fraction : Option (List Char))
    (exponent : Option Int) : Option Json :=
  let n := Nat.ofDigitChars 10 whole 0
  if fraction.isNone && exponent.isNone && negative && 0 < n && n ≤ Nat.pow 2 63 then
    some (.integer (-(n : Int)))
  else if fraction.isNone && exponent.isNone && !negative && n < Nat.pow 2 64 then
    some (.integer n)
  else if isFinite whole (fraction.getD []) (exponent.getD 0) then
    some (.decimal (String.ofList text))
  else none

/-- A number without its sign. -/
def readUnsigned (negative : Bool) (text s : List Char) : Option (Json × List Char) := do
  let (whole, s) := spanDigits s
  if !isWhole whole then none
  else
    let (fraction, s) ← readFraction s
    let (exponent, s) ← readExponent s
    let value ← numberOf (text.take (text.length - s.length)) negative whole fraction exponent
    return (value, s)

/-- A number. -/
def readNumber : List Char → Option (Json × List Char)
  | '-' :: s => readUnsigned true ('-' :: s) s
  | s => readUnsigned false s s

/-- A value that is neither a string, an array nor an object. -/
def readScalar : List Char → Option (Json × List Char)
  | 'n' :: 'u' :: 'l' :: 'l' :: rest => some (.null, rest)
  | 't' :: 'r' :: 'u' :: 'e' :: rest => some (.bool true, rest)
  | 'f' :: 'a' :: 'l' :: 's' :: 'e' :: rest => some (.bool false, rest)
  | s => readNumber s

/-! ## Values -/

mutual

/-- A value, with the spaces in front of it; `room` is the nesting that it may have. -/
def readValue : (fuel room : Nat) → List Char → Option (Json × List Char)
  | 0, _, _ => none
  | fuel + 1, room, s =>
    match skipSpace s, room with
    | '"' :: s, _ => do
      let (text, s) ← readString s
      return (.string text, s)
    | '[' :: _, 0 => none
    | '[' :: s, room + 1 =>
      match skipSpace s with
      | ']' :: s => some (.array [], s)
      | s => do
        let (elements, s) ← readElements fuel room s
        return (.array elements, s)
    | '{' :: _, 0 => none
    | '{' :: s, room + 1 =>
      match skipSpace s with
      | '}' :: s => some (.object [], s)
      | s => do
        let (members, s) ← readMembers fuel room s
        return (.object members, s)
    | s, _ => readScalar s

/-- One or more elements of an array, up to behind its closing bracket. -/
def readElements : (fuel room : Nat) → List Char → Option (List Json × List Char)
  | 0, _, _ => none
  | fuel + 1, room, s => do
    let (element, s) ← readValue fuel room s
    match skipSpace s with
    | ']' :: s => return ([element], s)
    | ',' :: s =>
      let (elements, s) ← readElements fuel room s
      return (element :: elements, s)
    | _ => none

/-- One or more members of an object, up to behind its closing brace. -/
def readMembers : (fuel room : Nat) → List Char → Option (List (String × Json) × List Char)
  | 0, _, _ => none
  | fuel + 1, room, s =>
    match skipSpace s with
    | '"' :: s => do
      let (key, s) ← readString s
      match skipSpace s with
      | ':' :: s =>
        let (value, s) ← readValue fuel room s
        match skipSpace s with
        | '}' :: s => return ([(key, value)], s)
        | ',' :: s =>
          let (members, s) ← readMembers fuel room s
          return ((key, value) :: members, s)
        | _ => none
      | _ => none
    | _ => none

end

/-- The value that a text holds, if the whole text is one value of allowed nesting. -/
def read (text : String) : Option Json :=
  let s := text.toList
  match readValue (2 * s.length + 1) maxNesting s with
  | some (value, rest) => if (skipSpace rest).isEmpty then some value else none
  | none => none

end CharacterSheet.Json
