/-!
# What can be wrong with content

Three things can go wrong before a sheet is judged: an authored prerequisite does not make sense
(`AuthoringFault`), a file is not JSON of the expected shape, or the items of a compendium require
each other in a loop (`ContentFault` has all three). Judging itself never fails.

A fault is its cause; the wording is in `message`.
-/

namespace CharacterSheet

/-- Why an authored prerequisite cannot be loaded. -/
inductive AuthoringFault where
  /-- a number (a level, a bonus, a count, an end of an age range) that does not read as one -/
  | invalidNumber (tag value : String)
  /-- an attribute requirement that is not a key followed by a threshold -/
  | invalidAttribute (requirement : String)
  /-- a combination of no nodes at all -/
  | noChildren (tag : String)
  /-- a condition with nothing to ask for -/
  | noRequirement (tag : String)
  deriving DecidableEq

/-- The wording of a fault. -/
def AuthoringFault.message : AuthoringFault → String
  | .invalidNumber tag value => tag ++ " requirement is not a number: " ++ value
  | .invalidAttribute requirement =>
    "attribute requirement must be `<key> <threshold>`: " ++ requirement
  | .noChildren tag => tag ++ " prerequisite has no children"
  | .noRequirement tag => tag ++ " prerequisite has no requirement"

/-- Why content cannot be loaded or put in order. -/
inductive ContentFault where
  | authoring (fault : AuthoringFault)
  /-- items that require each other in a loop: the names along it, the first one again at the end -/
  | cycle (path : List String)
  /-- not JSON, or JSON of another shape -/
  | unreadable
  deriving DecidableEq

/-- The names of a loop, in one line. -/
def cycleText (path : List String) : String :=
  if path.isEmpty then "(empty cycle)" else String.intercalate " -> " path

/-- The wording of a fault. -/
def ContentFault.message : ContentFault → String
  | .authoring fault => fault.message
  | .cycle path => "Cycle detected: " ++ cycleText path
  | .unreadable => "content is not JSON of the expected shape"

/-- Why a JSON value is not the part of a sheet that it stands for. -/
inductive Misfit where
  /-- it has another shape -/
  | shape
  /-- it has the shape, but a prerequisite in it makes no sense -/
  | content (fault : AuthoringFault)
  deriving DecidableEq

end CharacterSheet
