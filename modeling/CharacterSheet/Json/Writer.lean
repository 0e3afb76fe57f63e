import CharacterSheet.Json.Value
import CharacterSheet.Text.Numeral

/-!
# Writing JSON

The compact form: no spaces, the members of an object in their order. In a string only the quote, the
backslash and the control characters are escaped, the common ones with their letter and the rest with
four hexadecimal digits.
-/

namespace CharacterSheet.Json

/-- The hexadecimal digit of a number below sixteen. -/
def hexDigit (n : Nat) : Char :=
  Nat.digitChar n

/-- A character as it stands in a string. -/
def escape (c : Char) : List Char :=
  if c = '"' then ['\\', '"']
  else if c = '\\' then ['\\', '\\']
  else if c = '\x08' then ['\\', 'b']
  else if c = '\x0c' then ['\\', 'f']
  else if c = '\n' then ['\\', 'n']
  else if c = '\r' then ['\\', 'r']
  else if c = '\t' then ['\\', 't']
  else if c.toNat < 0x20 then
    ['\\', 'u', '0', '0', hexDigit (c.toNat / 16), hexDigit (c.toNat % 16)]
  else [c]

/-- A string with its quotes. -/
def writeString (s : String) : List Char :=
  '"' :: (s.toList.flatMap escape ++ ['"'])

mutual

/-- The characters of a value. -/
def write : Json → List Char
  | .null => ['n', 'u', 'l', 'l']
  | .bool true => ['t', 'r', 'u', 'e']
  | .bool false => ['f', 'a', 'l', 's', 'e']
  | .integer n => Text.writeInteger n
  | .decimal text => text.toList
  | .string s => writeString s
  | .array elements => '[' :: (writeElements elements ++ [']'])
  | .object members => '{' :: (writeMembers members ++ ['}'])

/-- Elements with commas between them. -/
def writeElements : List Json → List Char
  | [] => []
  | [element] => write element
  | element :: rest => write element ++ ',' :: writeElements rest

/-- Members with commas between them. -/
def writeMembers : List (String × Json) → List Char
  | [] => []
  | [(key, value)] => writeString key ++ ':' :: write value
  | (key, value) :: rest => writeString key ++ ':' :: (write value ++ ',' :: writeMembers rest)

end

/-- The text of a value. -/
def render (value : Json) : String :=
  String.ofList value.write

end CharacterSheet.Json
