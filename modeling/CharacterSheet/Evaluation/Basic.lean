import CharacterSheet.Evaluation.Judgement

/-!
# Judging prerequisites

What the judgement on a node says, from what those on its parts say. Combinations make one report of
their children's. An owned item that a condition asks for is judged again, by its own prerequisites,
which may ask for further items. Two guards keep this finite and are visible in the report:

* an item that comes up while its own prerequisites are being judged does not stand, and the loop is
  a diagnostic. The items that are being judged are `busy`, outermost first;
* a node more than `maxDepth` levels down is not judged: it blocks, with a diagnostic. Combinations
  and owned items each make one level. `judge` counts the levels that are left, and is structural in
  that number.
-/

namespace CharacterSheet

/-- How judgements are made. -/
structure Settings where
  /-- deepest level that is judged -/
  maxDepth : UInt64 := 64
  deriving DecidableEq

namespace Settings

/-- The settings as a file has them. -/
def toJson (settings : Settings) : Json :=
  .object [("maxDepth", .integer settings.maxDepth.toNat)]

/-- Reads settings. -/
def ofJson (j : Json) : Json.Decoded Settings := do
  let record ← j.asRecord 1
  let blank : Settings := {}
  return { maxDepth := ← record.withDefault 0 ["maxDepth"] blank.maxDepth Json.asUInt64 }

end Settings

/-- The verdict on an owned item: it stands if it asks for nothing, it does not while it is busy, and
otherwise its prerequisites decide, which `judgeList` judges with the item among the busy ones. -/
def OwnedItem.recheck (judgeList : List OwnedItem → List Prerequisite → Report)
    (busy : List OwnedItem) (owned : OwnedItem) : Verdict :=
  if owned.item.prerequisites.isEmpty then ⟨true, []⟩
  else if busy.any (·.place == owned.place) then
    ⟨false, [.cycle ((busy ++ [owned]).map (·.item.name))]⟩
  else
    let report := judgeList (busy ++ [owned]) owned.item.prerequisites
    ⟨report.passes, report.diagnostics⟩

/-- Whatever the way of judging, there is a verdict without it if the item asks for nothing or is busy,
and the verdict is that on the item's prerequisites if not. -/
theorem OwnedItem.recheck_eq (owned : OwnedItem) (busy : List OwnedItem) :
    (∀ judgeList, owned.recheck judgeList busy = ⟨true, []⟩) ∨
      (busy.any (·.place == owned.place) = true ∧ ∀ judgeList,
        owned.recheck judgeList busy =
          ⟨false, [.cycle ((busy ++ [owned]).map (·.item.name))]⟩) ∨
      (busy.any (·.place == owned.place) = false ∧ owned.item.prerequisites.isEmpty = false ∧
        ∀ judgeList, owned.recheck judgeList busy =
          ⟨(judgeList (busy ++ [owned]) owned.item.prerequisites).passes,
            (judgeList (busy ++ [owned]) owned.item.prerequisites).diagnostics⟩) := by
  unfold recheck
  cases owned.item.prerequisites.isEmpty with
  | true => exact Or.inl fun _ => rfl
  | false =>
    cases busy.any (·.place == owned.place) with
    | true => exact Or.inr (Or.inl ⟨rfl, fun _ => rfl⟩)
    | false => exact Or.inr (Or.inr ⟨rfl, rfl, fun _ => rfl⟩)

namespace Subject

/-- The report on a node with `room` levels left, down from a deepest level of `maxDepth`. -/
def judge (subject : Subject) (c : Contributions) (maxDepth : Nat) :
    (room : Nat) → (busy : List OwnedItem) → Prerequisite → Report
  | 0, _, node =>
    { shortfalls := [.blocking node.text], diagnostics := [.tooDeep maxDepth node.text] }
  | room + 1, busy, .leaf text condition =>
    let recheck := OwnedItem.recheck
      (fun busy nodes => Report.join (nodes.map (judge subject c maxDepth room busy))) busy
    Report.leaf (.leaf text condition) (condition.judge subject c recheck text)
  | room + 1, busy, .all text children =>
    Report.all (.all text children)
      (Report.join (children.map (judge subject c maxDepth room busy)))
  | room + 1, busy, .any text count children =>
    Report.any (.any text count children) count
      (Report.join (children.map (judge subject c maxDepth room busy)))

/-- The report on a list of nodes. -/
def judgeList (subject : Subject) (c : Contributions) (maxDepth room : Nat)
    (busy : List OwnedItem) (nodes : List Prerequisite) : Report :=
  Report.join (nodes.map (subject.judge c maxDepth room busy))

/-! ## Equations -/

variable (subject : Subject) (c : Contributions) (maxDepth room : Nat) (busy : List OwnedItem)

@[simp] theorem judge_zero (node : Prerequisite) :
    subject.judge c maxDepth 0 busy node =
      { shortfalls := [.blocking node.text], diagnostics := [.tooDeep maxDepth node.text] } := by
  cases node <;> rfl

@[simp] theorem judge_leaf (text : String) (condition : Condition) :
    subject.judge c maxDepth (room + 1) busy (.leaf text condition) =
      Report.leaf (.leaf text condition) (condition.judge subject c
        (OwnedItem.recheck (subject.judgeList c maxDepth room) busy) text) := rfl

@[simp] theorem judge_all (text : String) (children : List Prerequisite) :
    subject.judge c maxDepth (room + 1) busy (.all text children) =
      Report.all (.all text children) (subject.judgeList c maxDepth room busy children) := rfl

@[simp] theorem judge_any (text : String) (count : UInt32) (children : List Prerequisite) :
    subject.judge c maxDepth (room + 1) busy (.any text count children) =
      Report.any (.any text count children) count
        (subject.judgeList c maxDepth room busy children) := rfl

end Subject

end CharacterSheet
