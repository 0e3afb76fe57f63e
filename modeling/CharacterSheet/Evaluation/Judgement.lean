import CharacterSheet.Contributions
import CharacterSheet.Evaluation.Report

/-!
# Judging one condition

Most conditions compare one thing on the sheet with one bound. Six kinds of assets need more: a feat,
a class, a trait, a talent, a tradition or a technique only counts while its own prerequisites are
still met. How that is found out is left open here, as a `Recheck` that gives a verdict on an owned
item. The rules below only say which items are asked, and in which order.

* A feat, a class, a tradition or a technique asks for the first item of its name, and no other.
* A trait asks for the items of its name in turn, up to the first that stands.
* A talent asks for the first talent of its name. If that does not stand, the name is taken for the
  name of a tree: all talents of the tree are asked, and it counts as many of them as stand.
-/

namespace CharacterSheet

/-- Whether an owned item counts, with the problems that showed while finding out. -/
structure Verdict where
  stands : Bool
  diagnostics : List Diagnostic := []

/-- How to find out whether an owned item counts. -/
abbrev Recheck := OwnedItem → Verdict

/-- What becomes of a condition. -/
inductive Outcome where
  /-- it is met, and counts so much -/
  | met (count : UInt32)
  /-- it is not, or not for certain, and this entry says so -/
  | entry (shortfall : Shortfall)

/-- The judgement on a condition. -/
structure Answer where
  outcome : Outcome
  diagnostics : List Diagnostic := []

namespace Outcome

/-- Met and counting one, or a blocking entry with the text of the node. -/
def ofBool (text : String) (isMet : Bool) : Outcome :=
  if isMet then .met 1 else .entry (.blocking text)

/-- Met if it counts at all, or a blocking entry with the text of the node. -/
def ofCount (text : String) (count : UInt32) : Outcome :=
  if 0 < count then .met count else .entry (.blocking text)

end Outcome

namespace Subject

/-! ## Owned items -/

/-- The owned items of a kind and name. -/
def namesakes (subject : Subject) (kind : ItemKind) (name : String) : List OwnedItem :=
  subject.owned.filter fun o => o.item.kind == kind && o.item.name == name

/-- The verdict on the first item of a kind and name; without one, nothing stands. -/
def recheckFirst (subject : Subject) (recheck : Recheck) (kind : ItemKind) (name : String) :
    Verdict :=
  match subject.owned.find? fun o => o.item.kind == kind && o.item.name == name with
  | some o => recheck o
  | none => ⟨false, []⟩

/-- The verdict on items that are asked in turn, up to the first that stands. -/
def recheckAny (recheck : Recheck) : List OwnedItem → Verdict
  | [] => ⟨false, []⟩
  | o :: rest =>
    let verdict := recheck o
    if verdict.stands then verdict
    else
      let later := recheckAny recheck rest
      ⟨later.stands, verdict.diagnostics ++ later.diagnostics⟩

/-- The verdict on the traits of a name. -/
def recheckTrait (subject : Subject) (recheck : Recheck) (name : String) : Verdict :=
  recheckAny recheck (subject.namesakes .trait name)

/-- The talents of a tree. -/
def talentsOf (subject : Subject) (tree : String) : List OwnedItem :=
  subject.owned.filter fun o => o.item.kind == .talent && o.item.isInTree tree

/-- The judgement on a talent, by its name or by that of its tree. -/
def judgeTalent (subject : Subject) (recheck : Recheck) (text name : String) : Answer :=
  let byName := subject.recheckFirst recheck .talent name
  if byName.stands then ⟨.met 1, byName.diagnostics⟩
  else
    let byTree := (subject.talentsOf name).map recheck
    ⟨.ofCount text (.ofNat (byTree.countP (·.stands))),
      byName.diagnostics ++ byTree.flatMap (·.diagnostics)⟩

end Subject

/-- A verdict as the judgement on the condition that asked for it. -/
def Verdict.answer (verdict : Verdict) (text : String) : Answer :=
  ⟨.ofBool text verdict.stands, verdict.diagnostics⟩

/-! ## Conditions -/

/-- The value of a threshold for a subject. A subject without abilities has the score zero. -/
def Threshold.value (subject : Subject) (c : Contributions) : Threshold → Int64
  | .fixed n => n
  | .attributeSum key => c.sum key
  | .abilityScore ability => (subject.scoreOf ability).getD 0

/-- Whether an age lies in a range. -/
def isAgeInRange (low : UInt32) (high : Option UInt32) (age : UInt32) : Bool :=
  decide (low ≤ age) && high.all fun high => decide (age ≤ high)

/-- The judgement on an asset that goes by `name`, for the node that shows `text`. -/
def Asset.judge (subject : Subject) (recheck : Recheck) (text name : String) : Asset → Answer
  | .item => ⟨.ofBool text (subject.inventory.any (·.name == name)), []⟩
  | .species => ⟨.ofBool text ((subject.itemsOf .species).any (·.name == name)), []⟩
  | .trainedSkill => ⟨.ofBool text (subject.trainedSkills.any (Text.sameLowercase · name)), []⟩
  | .proficiency =>
    ⟨.ofBool text ((subject.weaponProficiencies ++ subject.armorProficiencies).any
      (Text.sameLowercase · name)), []⟩
  | .gender => ⟨.ofBool text (subject.sex.any (Text.sameLowercase · name)), []⟩
  | .equipped => ⟨.ofBool text (subject.equipped.any (·.name == name)), []⟩
  | .feat => (subject.recheckFirst recheck .feat name).answer text
  | .heroicClass => (subject.recheckFirst recheck .heroicClass name).answer text
  | .tradition => (subject.recheckFirst recheck .forceTradition name).answer text
  | .technique => (subject.recheckFirst recheck .forceTechnique name).answer text
  | .trait => (subject.recheckTrait recheck name).answer text
  | .talent => subject.judgeTalent recheck text name

/-- The judgement on a special rule. -/
def Special.judge (c : Contributions) (text : String) : Special → Answer
  | .notDroid => ⟨.ofBool text (!c.any .isDroid), []⟩
  | .droid => ⟨.ofBool text (c.any .isDroid), []⟩
  | .builtLightsaber => ⟨.entry (.notice ("SPECIAL: " ++ text)), []⟩
  | .other requirement => ⟨.entry (.blocking text), [.unsupportedSpecial requirement]⟩

/-- The judgement on a condition, for the node that shows `text`. -/
def Condition.judge (subject : Subject) (c : Contributions) (recheck : Recheck) (text : String) :
    Condition → Answer
  | .age low high =>
    if subject.age.any (isAgeInRange low high) then ⟨.met 1, []⟩
    else ⟨.entry (.blocking ("AGE: " ++ text)), []⟩
  | .characterLevel least => ⟨.ofBool text (decide (least ≤ subject.characterLevel)), []⟩
  | .baseAttackBonus least => ⟨.ofBool text (decide (least ≤ subject.baseAttackBonus)), []⟩
  | .darkSideScore least =>
    ⟨.ofBool text (decide (least.value subject c ≤ subject.darkSideScore)), []⟩
  | .asset kind name => kind.judge subject recheck text name
  | .techniqueCount least =>
    ⟨.ofBool text (decide (least.toNat ≤ (subject.itemsOf .forceTechnique).length)), []⟩
  | .attributeSum key least => ⟨.ofBool text (decide (least ≤ c.sum key)), []⟩
  | .special rule => rule.judge c text
  | .unsupported tag _ => ⟨.entry (.blocking text), [.unsupportedTag tag text]⟩

/-- The report on a leaf, from the judgement on its condition. -/
def Report.leaf (node : Prerequisite) (answer : Answer) : Report :=
  match answer.outcome with
  | .met count => { credits := [⟨node, count⟩], diagnostics := answer.diagnostics }
  | .entry shortfall => { shortfalls := [shortfall], diagnostics := answer.diagnostics }

end CharacterSheet
