import CharacterSheet.Proofs.Contributions
import CharacterSheet.Proofs.Text.Words

/-!
# What counts under a key

What counts under a key is a plain list: the subject's own values, then item by item those of what
is not gear or is equipped (`Subject.contributionsTo`). The values of traits are a part of it, since
traits are no gear, and all ways to tally agree on it (`Subject.tallies_agree`): the sum, the
greatest and the least number are those of the values that read as numbers, the list is read as a
number by its sum and as a truth value by whether any value holds. The sum is that of machine numbers,
and the exact one unless that is out of range.

The two readings of a value are defined apart from each other, but a value that reads as a number
other than zero holds (`AttributeValue.holds_of_toNumber?`), because neither the empty text nor the
word `false` has a digit. So where nothing holds, the sum is zero.
-/

namespace CharacterSheet

/-! ## The two readings of a value -/

theorem AttributeValue.holds_of_toNumber? {value : AttributeValue} {n : Int64}
    (hn : value.toNumber? = some n) (hne : n ≠ 0) : value.holds = true := by
  cases value with
  | flag b =>
    cases b with
    | false => exact absurd (Option.some.inj hn).symm hne
    | true => rfl
  | number m =>
    obtain rfl : m = n := Option.some.inj hn
    exact bne_iff_ne.mpr hne
  | defenseBonus bonus => cases hn
  | text s =>
    obtain ⟨c, hc, hdigit⟩ := Text.exists_isDigit_of_readInt64 hn
    have hmem : c ∈ s.toList := Text.mem_of_mem_trim hc
    have hempty : s.isEmpty = false := by
      rw [Bool.eq_false_iff]
      intro hempty
      rw [String.isEmpty_iff.mp hempty] at hmem
      cases hmem
    have hfalse : Text.sameAsciiLowercase s "false" = false :=
      Text.sameAsciiLowercase_eq_false_of_isDigit hmem hdigit (by decide)
    rw [holds, hempty, hfalse]
    rfl

/-! ## The list of what counts -/

/-- A value that counts for a subject, with the item that brings it. The subject's own values have
none. -/
structure Contribution where
  source : Option Item
  value : AttributeValue

namespace Contribution

/-- Whether a trait brings the value. -/
def isFromTrait (contribution : Contribution) : Bool :=
  contribution.source.any (·.kind == .trait)

end Contribution

namespace Attribute

variable {key : AttributeKey} {source : Option Item}

/-- What an attribute contributes to a key. -/
def contribution? (key : AttributeKey) (source : Option Item) (a : Attribute) :
    Option Contribution :=
  if a.key = key then some ⟨source, a.value⟩ else none

theorem map_value_contribution? (key : AttributeKey) (source : Option Item)
    (attributes : List Attribute) :
    (attributes.filterMap (contribution? key source)).map (·.value) = valuesOf key attributes := by
  induction attributes with
  | nil => rfl
  | cons a rest ih =>
    rw [valuesOf] at ih ⊢
    by_cases hkey : a.key = key
    · simp [contribution?, hkey, ih]
    · simp [contribution?, hkey, ih]

theorem isFromTrait_of_mem {attributes : List Attribute} {contribution : Contribution}
    (h : contribution ∈ attributes.filterMap (contribution? key source)) :
    contribution.isFromTrait = source.any (·.kind == .trait) := by
  obtain ⟨a, -, ha⟩ := List.mem_filterMap.mp h
  unfold contribution? at ha
  split at ha
  · cases ha
    rfl
  · cases ha

end Attribute

namespace Item

/-- What an item contributes to a key, if it is active. -/
def contributionsTo (key : AttributeKey) (item : Item) : List Contribution :=
  item.attributes.filterMap (·.contribution? key (some item))

theorem map_value_contributionsTo (key : AttributeKey) (items : List Item) :
    (items.flatMap (contributionsTo key)).map (·.value) =
      Attribute.valuesOf key (items.flatMap (·.attributes)) := by
  induction items with
  | nil => rfl
  | cons item rest ih =>
    rw [List.flatMap_cons, List.map_append, ih, contributionsTo, Attribute.map_value_contribution?,
      List.flatMap_cons, Attribute.valuesOf_append]

theorem filter_contributionsTo (key : AttributeKey) (items : List Item) :
    (items.flatMap (contributionsTo key)).filter (·.isFromTrait) =
      (items.filter (·.kind == .trait)).flatMap (contributionsTo key) := by
  induction items with
  | nil => rfl
  | cons item rest ih =>
    have hsource : ∀ contribution ∈ item.contributionsTo key,
        contribution.isFromTrait = (item.kind == .trait) :=
      fun _ h => Attribute.isFromTrait_of_mem h
    rw [List.flatMap_cons, List.filter_append, ih, List.filter_cons]
    cases htrait : item.kind == .trait with
    | false =>
      rw [htrait] at hsource
      rw [List.filter_eq_nil_iff.mpr (by simpa using hsource)]
      rfl
    | true =>
      rw [htrait] at hsource
      rw [List.filter_eq_self.mpr hsource]
      rfl

/-- Whatever is not gear is active, and so is gear that is equipped. -/
theorem isActive_eq_decide (item : Item) : item.isActive =
    decide (item.kind ∉ [.armor, .weapon, .equipment] ∨ item.equipped = true) := by
  obtain ⟨name, kind, equipped⟩ := item
  cases kind <;> cases equipped <;> rfl

/-- Traits are no gear. -/
theorem filter_trait_filter_isActive (items : List Item) :
    (items.filter (·.isActive)).filter (·.kind == .trait) = items.filter (·.kind == .trait) := by
  rw [List.filter_filter]
  refine List.filter_congr fun item _ => ?_
  cases htrait : item.kind == .trait with
  | false => rfl
  | true =>
    have hcarried : item.kind.isCarried = false := by
      rw [eq_of_beq htrait]
      rfl
    rw [isActive_of_not_isCarried hcarried]
    rfl

end Item

namespace Subject

/-- What counts for a subject under a key: its own values, then item by item the values of whatever
is not gear or is equipped. -/
def contributionsTo (subject : Subject) (key : AttributeKey) : List Contribution :=
  let active := subject.items.filter fun item =>
    item.kind ∉ [.armor, .weapon, .equipment] ∨ item.equipped = true
  subject.attributes.filterMap (·.contribution? key none) ++ active.flatMap (·.contributionsTo key)

theorem contributionsTo_eq (subject : Subject) (key : AttributeKey) :
    subject.contributionsTo key = subject.attributes.filterMap (·.contribution? key none) ++
      (subject.items.filter (·.isActive)).flatMap (·.contributionsTo key) := by
  simp only [contributionsTo, Item.isActive_eq_decide]

theorem values_contributions (subject : Subject) (key : AttributeKey) :
    subject.contributions.values key = (subject.contributionsTo key).map (·.value) := by
  rw [contributionsTo_eq, List.map_append, Attribute.map_value_contribution?,
    Item.map_value_contributionsTo, ← Attribute.valuesOf_append]
  rfl

theorem traitValues_contributions (subject : Subject) (key : AttributeKey) :
    subject.contributions.traitValues key =
      ((subject.contributionsTo key).filter (·.isFromTrait)).map (·.value) := by
  have hown : (subject.attributes.filterMap (·.contribution? key none)).filter (·.isFromTrait) =
      [] := by
    refine List.filter_eq_nil_iff.mpr fun contribution h => ?_
    rw [Attribute.isFromTrait_of_mem h]
    exact Bool.false_ne_true
  rw [contributionsTo_eq, List.filter_append, hown, List.nil_append, Item.filter_contributionsTo,
    Item.filter_trait_filter_isActive, Item.map_value_contributionsTo]
  rfl

end Subject

/-! ## Tallies -/

/-- A sum other than zero has a number other than zero in it. -/
theorem Contributions.any_of_sum_ne_zero (c : Contributions) (key : AttributeKey)
    (hsum : c.sum key ≠ 0) : c.any key = true := by
  rw [sum_eq_total] at hsum
  obtain ⟨n, hn, hne⟩ := Reckoning.exists_mem_ne_zero hsum
  obtain ⟨value, hvalue, hread⟩ := List.mem_filterMap.mp hn
  rw [any_eq_any, List.any_eq_true]
  exact ⟨value, hvalue, AttributeValue.holds_of_toNumber? hread hne⟩

/-- What counts under a key is the subject's own values and then, item by item, those of what is not
gear or is equipped. Traits grant the values among these that trait items bring. All tallies are
over this list and the numbers in it, and so are both readings of the list itself, which is the
result without a tally wherever there are values. A sum other than zero means that some value holds.
-/
theorem Subject.tallies_agree (subject : Subject) (key : AttributeKey) :
    let c := subject.contributions
    let values := (subject.contributionsTo key).map (·.value)
    let numbers := values.filterMap AttributeValue.toNumber?
    c.values key = values ∧
      c.traitValues key = ((subject.contributionsTo key).filter (·.isFromTrait)).map (·.value) ∧
      Reckoning.IsSumOf (c.sum key) numbers ∧
      (∀ n, c.greatest key = some n ↔ IsGreatest {m | m ∈ numbers} n) ∧
      (c.greatest key = none ↔ numbers = []) ∧
      (∀ n, c.least key = some n ↔ IsLeast {m | m ∈ numbers} n) ∧
      (c.least key = none ↔ numbers = []) ∧
      (c.any key = true ↔ ∃ value ∈ values, value.holds = true) ∧
      c.tally? key none = (if values = [] then none else some (.list values)) ∧
      (∀ tallied ∈ c.tally? key none,
        tallied.toNumber = c.sum key ∧ tallied.holds = c.any key) ∧
      (c.sum key ≠ 0 → c.any key = true) := by
  intro c values numbers
  have hvalues : c.values key = values := subject.values_contributions key
  have hnumbers : (c.values key).filterMap AttributeValue.toNumber? = numbers := by
    rw [hvalues]
  refine ⟨hvalues, subject.traitValues_contributions key, ?_, ?_, ?_, ?_, ?_, ?_, ?_, ?_,
    c.any_of_sum_ne_zero key⟩
  · rw [c.sum_eq_total, AttributeValue.total, hnumbers]
    exact Reckoning.isSumOf_sum numbers
  · intro n
    rw [c.greatest_eq_max?, hnumbers]
    exact max?_eq_some_iff_isGreatest
  · rw [c.greatest_eq_max?, hnumbers]
    exact List.max?_eq_none_iff
  · intro n
    rw [c.least_eq_min?, hnumbers]
    exact min?_eq_some_iff_isLeast
  · rw [c.least_eq_min?, hnumbers]
    exact List.min?_eq_none_iff
  · rw [c.any_eq_any, hvalues]
    exact List.any_eq_true
  · rw [c.tally?_none, hvalues]
  · intro tallied htallied
    rw [c.tally?_none] at htallied
    split at htallied
    · cases htallied
    · cases htallied
      rw [c.sum_eq_total, c.any_eq_any]
      exact ⟨rfl, rfl⟩

/-- A guard with a number as text, a plain one of a trait beside a word, a shield that is raised
and a heavier suit that is not worn. -/
def Subject.guard : Subject where
  attributes := [⟨.damageReduction, .text " +2"⟩, ⟨.isDroid, .flag false⟩]
  items := [
    { name := "Plating", kind := .trait,
      attributes := [⟨.damageReduction, .number 3⟩, ⟨.damageReduction, .text "thick"⟩] },
    { name := "Battle Armor", kind := .armor, attributes := [⟨.damageReduction, .number 10⟩] },
    { name := "Energy Shield", kind := .equipment, equipped := true,
      attributes := [⟨.damageReduction, .number 5⟩] }]

theorem Subject.tallies_agree_guard :
    let c := guard.contributions
    c.values .damageReduction = [.text " +2", .number 3, .text "thick", .number 5] ∧
      c.traitValues .damageReduction = [.number 3, .text "thick"] ∧
      c.sum .damageReduction = 10 ∧ c.sum .damageReduction ≠ 0 ∧ c.any .damageReduction = true := by
  intro c
  obtain ⟨hvalues, htraits, -, -, -, -, -, -, -, -, hany⟩ := guard.tallies_agree .damageReduction
  have hsum : c.sum .damageReduction = 10 := by decide +kernel
  have hne : c.sum .damageReduction ≠ 0 := by
    rw [hsum]
    decide
  exact ⟨hvalues.trans (by decide +kernel), htraits.trans (by decide +kernel), hsum, hne, hany hne⟩

end CharacterSheet
