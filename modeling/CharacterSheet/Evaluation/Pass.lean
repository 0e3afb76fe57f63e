import CharacterSheet.Evaluation.Basic

/-!
# Making a judgement

A judgement goes once through the nodes, and all of it shares one state, the pass: the stack of the items
whose prerequisites are being judged, and the diagnostics so far. An item is pushed on the stack before
its prerequisites are judged and popped again behind them, and each node adds to the report on the list
that it stands in.

What a judgement says is worked out of its parts elsewhere (`Subject.judge`), with the busy items passed
down and the diagnostics passed up. That the pass comes to the same is what makes nodes independent of
one another.
-/

namespace CharacterSheet

/-- The state of a judgement. -/
structure Pass where
  /-- the items whose prerequisites are being judged, the innermost last -/
  busy : List OwnedItem := []
  /-- the problems that showed so far -/
  diagnostics : List Diagnostic := []

namespace Pass

/-- Writes down a problem. -/
def note (d : Diagnostic) : StateM Pass Unit :=
  modify fun pass => { pass with diagnostics := pass.diagnostics ++ [d] }

/-- Puts an item on the stack. -/
def push (o : OwnedItem) : StateM Pass Unit :=
  modify fun pass => { pass with busy := pass.busy ++ [o] }

/-- Takes the innermost item from the stack. -/
def pop : StateM Pass Unit :=
  modify fun pass => { pass with busy := pass.busy.dropLast }

end Pass

/-! ## Owned items -/

/-- Finds out whether an owned item counts, given how its prerequisites are judged. -/
def OwnedItem.ask (settleList : List Prerequisite → StateM Pass Report) (owned : OwnedItem) :
    StateM Pass Bool := do
  if owned.item.prerequisites.isEmpty then
    return true
  else
    let pass ← get
    if pass.busy.any (·.place == owned.place) then
      Pass.note (.cycle ((pass.busy ++ [owned]).map (·.item.name)))
      return false
    else
      Pass.push owned
      let report ← settleList owned.item.prerequisites
      Pass.pop
      return report.passes

namespace Subject

/-- Asks the first item of a kind and name; without one, nothing stands. -/
def askFirst (subject : Subject) (ask : OwnedItem → StateM Pass Bool) (kind : ItemKind)
    (name : String) : StateM Pass Bool :=
  match subject.owned.find? fun o => o.item.kind == kind && o.item.name == name with
  | some o => ask o
  | none => return false

/-- Asks items in turn, up to the first that stands. -/
def askAny (ask : OwnedItem → StateM Pass Bool) : List OwnedItem → StateM Pass Bool
  | [] => return false
  | o :: rest => do
    if ← ask o then return true
    else askAny ask rest

/-- Asks all of the items and adds those that stand to a count. -/
def askEach (ask : OwnedItem → StateM Pass Bool) (count : UInt32) :
    List OwnedItem → StateM Pass UInt32
  | [] => return count
  | o :: rest => do
    if ← ask o then askEach ask (count + 1) rest
    else askEach ask count rest

/-- Settles a talent, by its name or by that of its tree. -/
def settleTalent (subject : Subject) (ask : OwnedItem → StateM Pass Bool) (text name : String) :
    StateM Pass Outcome := do
  if ← subject.askFirst ask .talent name then return .met 1
  else return .ofCount text (← askEach ask 0 (subject.talentsOf name))

end Subject

/-! ## Nodes -/

/-- Settles a condition, for the node that shows `text`. -/
def Condition.settle (subject : Subject) (c : Contributions) (ask : OwnedItem → StateM Pass Bool)
    (text : String) : Condition → StateM Pass Outcome
  | .asset .feat name => return .ofBool text (← subject.askFirst ask .feat name)
  | .asset .heroicClass name => return .ofBool text (← subject.askFirst ask .heroicClass name)
  | .asset .tradition name => return .ofBool text (← subject.askFirst ask .forceTradition name)
  | .asset .technique name => return .ofBool text (← subject.askFirst ask .forceTechnique name)
  | .asset .trait name => return .ofBool text (← Subject.askAny ask (subject.namesakes .trait name))
  | .asset .talent name => subject.settleTalent ask text name
  | condition => do
    -- no owned item is asked for any of the others
    let answer := condition.judge subject c (fun _ => ⟨false, []⟩) text
    answer.diagnostics.forM Pass.note
    return answer.outcome

namespace Subject

/-- Settles a node with `room` levels left, down from a deepest level of `maxDepth`, and adds it to the
report on the nodes before it. -/
def settle (subject : Subject) (c : Contributions) (maxDepth : Nat) :
    (room : Nat) → Report → Prerequisite → StateM Pass Report
  | 0, before, node => do
    Pass.note (.tooDeep maxDepth node.text)
    return before.add { shortfalls := [.blocking node.text] }
  | room + 1, before, .leaf text condition => do
    let ask := OwnedItem.ask fun nodes => nodes.foldlM (settle subject c maxDepth room) {}
    let outcome ← condition.settle subject c ask text
    return before.add (Report.leaf (.leaf text condition) ⟨outcome, []⟩)
  | room + 1, before, .all text children => do
    let below ← children.foldlM (settle subject c maxDepth room) {}
    return before.add (Report.all (.all text children) below)
  | room + 1, before, .any text count children => do
    let below ← children.foldlM (settle subject c maxDepth room) {}
    return before.add (Report.any (.any text count children) count below)

/-- Settles the nodes of a list, one after the other. -/
def settleList (subject : Subject) (c : Contributions) (maxDepth room : Nat)
    (nodes : List Prerequisite) : StateM Pass Report :=
  nodes.foldlM (subject.settle c maxDepth room) {}

/-- The report on a list of nodes at the outermost level. -/
def report (subject : Subject) (settings : Settings) (nodes : List Prerequisite) : Report :=
  let maxDepth := settings.maxDepth.toNat
  let (report, pass) :=
    (subject.settleList subject.contributions maxDepth (maxDepth + 1) nodes).run {}
  { report with diagnostics := pass.diagnostics }

/-- Whether the subject may take what asks for these nodes. -/
def mayTake (subject : Subject) (settings : Settings) (nodes : List Prerequisite) : Bool :=
  subject.isExempt || (subject.report settings nodes).passes

end Subject

end CharacterSheet
