import CharacterSheet.Evaluation.Report

/-!
# Shortfalls as markup

The entries of a report as a nested list for display. An entry is its message, and an entry with
children has a break and the list of them before it closes. Messages stand as they are.
-/

namespace CharacterSheet.Shortfall

/-! ## Marks -/

def listStart : List Char := ['<', 'u', 'l', '>']
def listEnd : List Char := ['<', '/', 'u', 'l', '>']
def entryStart : List Char := ['<', 'l', 'i', '>']
def entryEnd : List Char := ['<', '/', 'l', 'i', '>']
def lineBreak : List Char := ['<', '/', 'b', 'r', '>']

/-! ## Entries -/

mutual

/-- An entry. -/
def markup : Shortfall → List Char
  | ⟨_, message, children⟩ => entryStart ++ message.toList ++ markupChildren children ++ entryEnd

/-- What stands behind the message of an entry with these children. -/
def markupChildren : List Shortfall → List Char
  | [] => []
  | child :: rest => lineBreak ++ listStart ++ (child.markup ++ markupEntries rest) ++ listEnd

/-- Entries in their order. -/
def markupEntries : List Shortfall → List Char
  | [] => []
  | entry :: rest => entry.markup ++ markupEntries rest

end

/-- Entries as a list of their own. -/
def markupList (entries : List Shortfall) : List Char :=
  listStart ++ markupEntries entries ++ listEnd

/-- The text of a list of entries. -/
def render (entries : List Shortfall) : String :=
  String.ofList (markupList entries)

/-- The children of an entry are a list of their own, behind a break. -/
theorem markupChildren_cons (child : Shortfall) (rest : List Shortfall) :
    markupChildren (child :: rest) = lineBreak ++ markupList (child :: rest) := by
  simp [markupChildren, markupList, markupEntries]

end CharacterSheet.Shortfall
