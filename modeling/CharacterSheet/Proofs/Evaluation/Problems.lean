import CharacterSheet.Proofs.Evaluation.Asking
import CharacterSheet.Proofs.Evaluation.Pass

/-!
# The problems of the content itself

What is wrong with a list of nodes, whoever it is asked of: a tag that nobody knows, a special
requirement without a meaning, a node below the deepest level that is judged. The nodes show them in
preorder (`Prerequisite.problemsList`).

No judgement keeps any of them back, however early it is settled: a combination passes on what its
children report whether they decide it or not. All that comes between the problems of a list is what
the owned items that it asks for have to report on their own prerequisites.
-/

namespace CharacterSheet

/-- The problems of a condition, at the node that shows `text`. -/
def Condition.problems (text : String) : Condition → List Diagnostic
  | .special (.other requirement) => [.unsupportedSpecial requirement]
  | .unsupported tag _ => [.unsupportedTag tag text]
  | _ => []

namespace Prerequisite

mutual

/-- The problems of a node that stands at `depth`, in preorder. A node below `maxDepth` is a problem
itself, and what stands below that is not looked at. -/
def problems (maxDepth depth : Nat) : Prerequisite → List Diagnostic
  | leaf text condition =>
    if maxDepth < depth then [.tooDeep maxDepth text] else condition.problems text
  | all text children | any text _ children =>
    if maxDepth < depth then [.tooDeep maxDepth text]
    else problemsList maxDepth (depth + 1) children

/-- The problems of the nodes of a list at `depth`, in preorder. -/
def problemsList (maxDepth depth : Nat) : List Prerequisite → List Diagnostic
  | [] => []
  | node :: rest => problems maxDepth depth node ++ problemsList maxDepth depth rest

end

theorem problemsList_eq_flatMap (maxDepth depth : Nat) (nodes : List Prerequisite) :
    problemsList maxDepth depth nodes = nodes.flatMap (problems maxDepth depth) := by
  induction nodes with
  | nil => rfl
  | cons node rest ih => rw [problemsList, ih, List.flatMap_cons]

theorem problems_of_lt {maxDepth depth : Nat} (h : maxDepth < depth) (node : Prerequisite) :
    node.problems maxDepth depth = [.tooDeep maxDepth node.text] := by
  cases node <;> rw [problems, if_pos h] <;> rfl

end Prerequisite

namespace Subject

variable {subject : Subject} {c : Contributions} {maxDepth : Nat} {busy : List OwnedItem}
  {R : List Diagnostic → List Diagnostic → Prop}

/-- What relates the problems of each condition to the diagnostics on it relates the problems of a node
to the diagnostics of the report. -/
theorem relates_judge (joins : Joins R)
    (hcondition : ∀ room (condition : Condition) text, R (condition.problems text)
      (condition.judge subject c (OwnedItem.recheck (subject.judgeList c maxDepth room) busy)
        text).diagnostics)
    {room depth : Nat} (hdepth : depth + room = maxDepth + 1) (node : Prerequisite) :
    R (node.problems maxDepth depth) (subject.judge c maxDepth room busy node).diagnostics := by
  -- depth and the levels that are left move against each other, so the levels run out below `maxDepth`
  induction room generalizing depth node with
  | zero =>
    rw [judge_zero, Prerequisite.problems_of_lt (by omega)]
    exact joins.refl _
  | succ room ih =>
    have hlevel : ¬ maxDepth < depth := by omega
    have hchildren : ∀ children : List Prerequisite,
        R (Prerequisite.problemsList maxDepth (depth + 1) children)
          (subject.judgeList c maxDepth room busy children).diagnostics := by
      intro children
      rw [Prerequisite.problemsList_eq_flatMap, diagnostics_judgeList]
      exact joins.flatMap fun child _ => ih (by omega) child
    cases node with
    | leaf text condition =>
      rw [diagnostics_judge_leaf, Prerequisite.problems, if_neg hlevel]
      exact hcondition room condition text
    | all text children =>
      rw [diagnostics_judge_all, Prerequisite.problems, if_neg hlevel]
      exact hchildren children
    | any text count children =>
      rw [diagnostics_judge_any, Prerequisite.problems, if_neg hlevel]
      exact hchildren children

theorem relates_report (joins : Joins R) {settings : Settings}
    (hcondition : ∀ room (condition : Condition) text, R (condition.problems text)
      (condition.judge subject subject.contributions
        (OwnedItem.recheck (subject.judgeList subject.contributions settings.maxDepth.toNat room) [])
        text).diagnostics)
    (nodes : List Prerequisite) :
    R (Prerequisite.problemsList settings.maxDepth.toNat 0 nodes)
      (subject.report settings nodes).diagnostics := by
  rw [report_eq_judgeList, diagnostics_judgeList, Prerequisite.problemsList_eq_flatMap]
  exact joins.flatMap fun node _ => relates_judge joins hcondition (Nat.zero_add _) node

/-! ## Whose items report nothing -/

/-- None of the owned items asks for anything. -/
def AsksNothing (subject : Subject) : Prop :=
  ∀ item ∈ subject.items, item.prerequisites = []

theorem AsksNothing.recheck_eq (h : subject.AsksNothing) {o : OwnedItem} (ho : o ∈ subject.owned)
    (judgeList : List OwnedItem → List Prerequisite → Report) :
    o.recheck judgeList busy = ⟨true, []⟩ := by
  rw [OwnedItem.recheck, h o.item (item_mem_of_mem_owned ho)]
  rfl

end Subject

namespace Condition

variable {subject : Subject} {c : Contributions} {recheck : Recheck}

/-- A condition has its problems reported, whatever the items report that it asks for. -/
theorem problems_sublist (condition : Condition) (text : String) :
    (condition.problems text).Sublist (condition.judge subject c recheck text).diagnostics := by
  cases condition with
  | special rule => cases rule <;> exact List.Sublist.refl _
  | unsupported tag requirement => exact List.Sublist.refl _
  | _ => exact List.nil_sublist _

/-- And where these report nothing, that is all. -/
theorem problems_eq_of_clean (clean : ∀ o ∈ subject.owned, (recheck o).diagnostics = [])
    (condition : Condition) (text : String) :
    condition.problems text = (condition.judge subject c recheck text).diagnostics := by
  cases condition with
  | age low high =>
    rw [judge]
    split <;> rfl
  | asset kind name =>
    refine (List.eq_nil_iff_forall_not_mem.mpr fun d hd => ?_).symm
    obtain ⟨o, hasks, hreported⟩ := mem_diagnostics_judge_asset hd
    rw [clean o hasks.mem_owned] at hreported
    cases hreported
  | special rule => cases rule <;> rfl
  | _ => rfl

end Condition

/-! ## Reports -/

/-- Every report has the problems of the list that is judged, in their order, and nothing else if no
owned item asks for anything. So in the eyes of all who own no such item the same is wrong with it,
whatever they meet of it. -/
theorem Prerequisite.problems_reported (settings : Settings) (nodes : List Prerequisite) :
    (∀ subject : Subject,
      (problemsList settings.maxDepth.toNat 0 nodes).Sublist
          (subject.report settings nodes).diagnostics ∧
        (subject.AsksNothing → (subject.report settings nodes).diagnostics =
          problemsList settings.maxDepth.toNat 0 nodes)) ∧
      ∀ subject subject' : Subject, subject.AsksNothing → subject'.AsksNothing →
        (subject.report settings nodes).diagnostics =
          (subject'.report settings nodes).diagnostics := by
  have hall : ∀ subject : Subject, subject.AsksNothing →
      problemsList settings.maxDepth.toNat 0 nodes =
        (subject.report settings nodes).diagnostics := by
    intro subject hnothing
    refine Subject.relates_report Joins.eq (fun room condition text => ?_) nodes
    refine condition.problems_eq_of_clean (fun o ho => ?_) text
    rw [hnothing.recheck_eq ho]
  refine ⟨fun subject => ⟨?_, fun hnothing => (hall subject hnothing).symm⟩, ?_⟩
  · have joins : Joins (@List.Sublist Diagnostic) := ⟨List.Sublist.refl, List.Sublist.append⟩
    exact Subject.relates_report joins (fun _ condition text => condition.problems_sublist text) nodes
  · intro subject subject' hnothing hnothing'
    exact (hall subject hnothing).symm.trans (hall subject' hnothing')

/-- The list passes by its first node, and its second one is reported all the same. -/
example :
    let report := (Actor.subject {}).report {} [.any "level 0 or a fair wind" 1
      [.leaf "level 0" (.characterLevel 0), .leaf "a fair wind" (.unsupported "WEATHER" "fair")]]
    report.passes = true ∧ report.diagnostics = [.unsupportedTag "WEATHER" "a fair wind"] := by
  decide +kernel

end CharacterSheet
