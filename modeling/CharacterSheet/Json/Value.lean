/-!
# JSON values

The file format of sheets and of authored content. A value keeps what a reader of either can tell
apart: whole numbers within a word are their own case, all other numbers keep the text they were
written with, and the members of an object stay in the order of the file, with repeated keys if there
are any. What a repeated key means is for the reader of a record to say.
-/

namespace CharacterSheet

/-- A JSON value. -/
inductive Json where
  | null
  | bool (b : Bool)
  /-- a whole number that fits a signed or an unsigned word of 64 bits -/
  | integer (n : Int)
  /-- any other number, as it was written -/
  | decimal (text : String)
  | string (s : String)
  | array (elements : List Json)
  | object (members : List (String × Json))

namespace Json

/-- Deepest nesting of arrays and objects that a text may have. -/
def maxNesting : Nat := 127

/-- A list of values, each written by `encode`. -/
def list {α : Type} (encode : α → Json) (values : List α) : Json :=
  .array (values.map encode)

/-- A value, or `null` where there is none. -/
def nullable {α : Type} (encode : α → Json) : Option α → Json
  | none => .null
  | some a => encode a

/-- A member that is written only if there is a value for it. -/
def member? {α : Type} (key : String) (encode : α → Json) : Option α → List (String × Json)
  | none => []
  | some a => [(key, encode a)]

/-- A list member that is written only if the list has elements. -/
def members? {α : Type} (key : String) (encode : α → Json) : List α → List (String × Json)
  | [] => []
  | a :: rest => [(key, list encode (a :: rest))]

end Json

end CharacterSheet
