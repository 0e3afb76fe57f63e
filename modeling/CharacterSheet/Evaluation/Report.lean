import CharacterSheet.Prerequisite.Save
import CharacterSheet.Reckoning

/-!
# Reports

What a judgement of prerequisites says. A report has three parts, all of them in the order of the
nodes that they come from:

* **shortfalls**, what is shown to the player. A blocking shortfall stands in the way; one that does
  not block is a notice. The children of a combination that is not met are shown under one entry, if
  there are several of them.
* **credits**, the nodes that were met and how much each of them counts towards a combination that
  asks for a number of its children. Counts have 32 bits, and go around that range together if they
  leave it.
* **diagnostics**, what is wrong with the content itself.
-/

namespace CharacterSheet

/-! ## Parts -/

/-- An entry of what a character falls short of. -/
structure Shortfall where
  /-- stands in the way, and is not a mere notice -/
  isBlocking : Bool
  message : String
  children : List Shortfall := []

namespace Shortfall

/-- An entry that stands in the way. -/
def blocking (message : String) : Shortfall := ⟨true, message, []⟩

/-- An entry that is only to be noticed. -/
def notice (message : String) : Shortfall := ⟨false, message, []⟩

mutual

/-- The entry as a file has it. -/
def toJson : Shortfall → Json
  | ⟨isBlocking, message, children⟩ =>
    .object ([("hardFail", .bool isBlocking), ("message", .string message)] ++
      match children with
      | [] => []
      | child :: rest => [("children", .array (child.toJson :: listToJson rest))])

/-- Entries as a file has them. -/
def listToJson : List Shortfall → List Json
  | [] => []
  | entry :: rest => entry.toJson :: listToJson rest

end

/-- Reads an entry, given how to read the value under its `children`. -/
def ofRecord (record : Json.Record) (children : Json.Decoded (List Shortfall)) :
    Json.Decoded Shortfall := do
  return {
    isBlocking := ← record.required 0 ["hardFail"] Json.asFlag
    message := ← record.required 1 ["message"] Json.asText
    children := ← children }

/-- Reads an entry. -/
def ofJson (j : Json) : Json.Decoded Shortfall :=
  match _hr : j.asRecord 3 with
  | .error misfit => .error misfit
  | .ok record =>
    ofRecord record <| match _hc : record.find 2 ["children"] with
      | .error misfit => .error misfit
      | .ok none => .ok []
      | .ok (some (.array elements)) => elements.attach.mapM fun ⟨element, _⟩ => ofJson element
      | .ok (some _) => .error .shape
termination_by sizeOf j
decreasing_by
  have := Json.sizeOf_lt_of_find _hr _hc
  have := List.sizeOf_lt_of_mem ‹element ∈ elements›
  simp only [Json.array.sizeOf_spec] at *
  omega

end Shortfall

/-- A node that is met, and how much it counts. A node counts one, but for a talent tree, which
counts the talents of it that the character has. -/
structure Credit where
  node : Prerequisite
  count : UInt32

/-- The node and its count as a file has them. -/
def Credit.toJson (credit : Credit) : Json :=
  .object [("prerequisite", credit.node.toJson), ("count", .integer credit.count.toNat)]

/-- A problem of the content that showed while it was judged. -/
inductive Diagnostic where
  /-- a tag outside the vocabulary -/
  | unsupportedTag (tag text : String)
  /-- a special requirement without a meaning -/
  | unsupportedSpecial (requirement : String)
  /-- an item that came up again while its own prerequisites were judged: the names from the
  outermost item to it -/
  | cycle (names : List String)
  /-- a node below the deepest nesting that is judged -/
  | tooDeep (maxDepth : Nat) (text : String)
  deriving DecidableEq

namespace Diagnostic

/-- The name of the problem in a file. -/
def key : Diagnostic → String
  | .unsupportedTag _ _ => "unsupportedKind"
  | .unsupportedSpecial _ => "unsupportedSpecial"
  | .cycle _ => "cycle"
  | .tooDeep _ _ => "depthExceeded"

/-- The wording of the problem. -/
def message : Diagnostic → String
  | .unsupportedTag tag text => "unsupported prerequisite type `" ++ tag ++ "` (`" ++ text ++ "`)"
  | .unsupportedSpecial requirement =>
    "unsupported SPECIAL prerequisite `" ++ requirement ++ "`"
  | .cycle names => "prerequisite cycle: " ++ String.intercalate " -> " names
  | .tooDeep maxDepth text =>
    "prerequisite nesting exceeds " ++ Text.natural maxDepth ++ " levels at `" ++ text ++ "`"

/-- The problem as a file has it. -/
def toJson (d : Diagnostic) : Json :=
  .object [("kind", .string d.key), ("message", .string d.message)]

end Diagnostic

/-! ## The whole -/

/-- What a judgement says. -/
structure Report where
  shortfalls : List Shortfall := []
  credits : List Credit := []
  diagnostics : List Diagnostic := []

namespace Report

/-- Several reports as one, in their order. -/
def join (reports : List Report) : Report where
  shortfalls := reports.flatMap (·.shortfalls)
  credits := reports.flatMap (·.credits)
  diagnostics := reports.flatMap (·.diagnostics)

/-- A report with what another says behind it. -/
def add (report more : Report) : Report where
  shortfalls := report.shortfalls ++ more.shortfalls
  credits := report.credits ++ more.credits
  diagnostics := report.diagnostics ++ more.diagnostics

/-- A report without its diagnostics. -/
def undiagnosed (report : Report) : Report :=
  { report with diagnostics := [] }

/-- Whether anything stands in the way. Only the outermost entries are asked. -/
def isBlocked (report : Report) : Bool :=
  report.shortfalls.any (·.isBlocking)

/-- Whether nothing stands in the way. -/
def passes (report : Report) : Bool :=
  !report.isBlocked

/-- How much the credits count together. -/
def count (report : Report) : UInt32 :=
  Reckoning.total (report.credits.map (·.count))

/-- The entries that do not block. -/
def notices (report : Report) : List Shortfall :=
  report.shortfalls.filter (!·.isBlocking)

/-- The entries of a combination that is not met: one stands for itself, several go under a label. -/
def fold (label : String) (isBlocking : Bool) (entries : List Shortfall) : List Shortfall :=
  if 1 < entries.length then [⟨isBlocking, label, entries⟩] else entries

/-- The report on a node that asks for all of its children, of which `children` is the report. -/
def all (node : Prerequisite) (children : Report) : Report :=
  if children.passes then
    { shortfalls := children.notices, credits := [⟨node, 1⟩], diagnostics := children.diagnostics }
  else
    { shortfalls := fold "all of:" true children.shortfalls, diagnostics := children.diagnostics }

/-- The report on a node that asks for `count` of its children, of which `children` is the report. -/
def any (node : Prerequisite) (count : UInt32) (children : Report) : Report :=
  if count ≤ children.count then
    { shortfalls := children.notices, credits := [⟨node, 1⟩], diagnostics := children.diagnostics }
  else
    let label := "at least of " ++ Text.natural count.toNat ++ ":"
    let entries :=
      if children.shortfalls.isEmpty then [Shortfall.blocking label]
      else fold label children.isBlocked children.shortfalls
    { shortfalls := entries, diagnostics := children.diagnostics }

/-- The members of the object that a file has for a report. The entries that a player would not see
have their place there, but so far there are none. -/
def members (report : Report) : List (String × Json) := [
  ("overallFailed", .bool report.isBlocked),
  ("failures", .array (Shortfall.listToJson report.shortfalls)),
  ("silentFailures", .array []),
  ("successes", Json.list Credit.toJson report.credits),
  ("diagnostics", Json.list Diagnostic.toJson report.diagnostics)]

/-! ## Adding and joining -/

@[simp] theorem empty_add (r : Report) : add {} r = r := rfl

theorem add_undiagnosed_join_nil (r : Report) : r.add (join []).undiagnosed = r := by
  simp [add, undiagnosed, join]

theorem add_undiagnosed_join_cons (r node : Report) (rest : List Report) :
    r.add (join (node :: rest)).undiagnosed =
      (r.add node.undiagnosed).add (join rest).undiagnosed := by
  simp [add, undiagnosed, join]

@[simp] theorem join_nil : join [] = {} := rfl

theorem join_append (rs ss : List Report) :
    join (rs ++ ss) = {
      shortfalls := (join rs).shortfalls ++ (join ss).shortfalls
      credits := (join rs).credits ++ (join ss).credits
      diagnostics := (join rs).diagnostics ++ (join ss).diagnostics } := by
  simp [join]

@[simp] theorem join_singleton (r : Report) : join [r] = r := by
  simp [join]

/-- A joined report is blocked where one of its parts is. -/
@[simp] theorem isBlocked_join (rs : List Report) : (join rs).isBlocked = rs.any isBlocked := by
  simp [join, isBlocked, List.any_flatMap]
  rfl

end Report

end CharacterSheet
