import CharacterSheet.Reckoning
import CharacterSheet.Subject

/-!
# Contributions

The attributes that count for a subject: its own, and those of its active items in the order of the
items. Traits have a list of their own, because some bonuses only count when a trait grants them.

What stands under one key can be taken as a list or be tallied: to a sum, to the greatest or least
number, or to whether any value holds. Values that do not read as numbers are passed over where
numbers are tallied. Sums go around the range of a number where they leave it.
-/

namespace CharacterSheet

/-! ## Tallies -/

/-- A way of taking several values as one. -/
inductive Tally where
  | sum
  | greatest
  | least
  | any
  deriving DecidableEq

/-- What a tally gives; without one the values stay a list. -/
inductive Tallied where
  | number (n : Int64)
  | flag (b : Bool)
  | list (values : List AttributeValue)
  deriving DecidableEq

/-- The sum of the values that read as numbers. -/
def AttributeValue.total (values : List AttributeValue) : Int64 :=
  Reckoning.sum (values.filterMap toNumber?)

namespace Tallied

/-- The result read as a number. -/
def toNumber : Tallied → Int64
  | number n => n
  | flag b => if b then 1 else 0
  | list values => AttributeValue.total values

/-- The result read as a truth value. -/
def holds : Tallied → Bool
  | number n => n != 0
  | flag b => b
  | list values => values.any AttributeValue.holds

end Tallied

/-- The result of a tally over values. Where numbers are tallied, there have to be some. -/
def Tally.ofValues (values : List AttributeValue) : Tally → Option Tallied
  | .any => some (.flag (values.any AttributeValue.holds))
  | .sum =>
    if (values.filterMap AttributeValue.toNumber?).isEmpty then none
    else some (.number (AttributeValue.total values))
  | .greatest => (values.filterMap AttributeValue.toNumber?).max?.map .number
  | .least => (values.filterMap AttributeValue.toNumber?).min?.map .number

/-- The result over values of a tally, or of none. Without values there is no result at all. -/
def Tallied.of? (tally : Option Tally) (values : List AttributeValue) : Option Tallied :=
  if values.isEmpty then none
  else match tally with
    | none => some (.list values)
    | some tally => tally.ofValues values

/-! ## The attributes of a subject -/

/-- The attributes that count for a subject. -/
structure Contributions where
  /-- of the subject and all its active items -/
  all : List Attribute
  /-- of its traits alone -/
  fromTraits : List Attribute

/-- The contributions to a subject as it is now. -/
def Subject.contributions (subject : Subject) : Contributions where
  all := subject.attributes ++ (subject.items.filter (·.isActive)).flatMap (·.attributes)
  fromTraits := (subject.itemsOf .trait).flatMap (·.attributes)

/-- The values under a key, in order. -/
def Attribute.valuesOf (key : AttributeKey) (attributes : List Attribute) : List AttributeValue :=
  (attributes.filter (·.key == key)).map (·.value)

namespace Contributions

/-- What counts under a key. -/
def values (c : Contributions) (key : AttributeKey) : List AttributeValue :=
  Attribute.valuesOf key c.all

/-- What traits alone grant under a key. -/
def traitValues (c : Contributions) (key : AttributeKey) : List AttributeValue :=
  Attribute.valuesOf key c.fromTraits

/-- The tally of what counts under a key. -/
def tally? (c : Contributions) (key : AttributeKey) (tally : Option Tally) : Option Tallied :=
  Tallied.of? tally (c.values key)

/-- The tally of what counts under a key, or `default` where it has no result. -/
def tallyOr (c : Contributions) (key : AttributeKey) (tally : Option Tally) (default : Tallied) :
    Tallied :=
  (c.tally? key tally).getD default

/-- The sum under a key; zero without numbers. -/
def sum (c : Contributions) (key : AttributeKey) : Int64 :=
  (c.tallyOr key (some .sum) (.number 0)).toNumber

/-- The greatest number under a key. -/
def greatest (c : Contributions) (key : AttributeKey) : Option Int64 :=
  (c.tally? key (some .greatest)).map Tallied.toNumber

/-- The least number under a key. -/
def least (c : Contributions) (key : AttributeKey) : Option Int64 :=
  (c.tally? key (some .least)).map Tallied.toNumber

/-- Whether any value under a key holds. -/
def any (c : Contributions) (key : AttributeKey) : Bool :=
  (c.tally? key (some .any)).any Tallied.holds

/-- The sum of what traits alone grant under a key. -/
def sumFromTraits (c : Contributions) (key : AttributeKey) : Int64 :=
  AttributeValue.total (c.traitValues key)

/-- The bonuses to defenses, which only traits grant. -/
def traitBonuses (c : Contributions) : List DefenseBonus :=
  (c.traitValues .defenseBonuses).filterMap AttributeValue.bonus?

/-! ## The tallies in terms of the values -/

/-- The sum is that of the values which read as numbers. -/
theorem sum_eq_total (c : Contributions) (key : AttributeKey) :
    c.sum key = AttributeValue.total (c.values key) := by
  unfold sum tallyOr tally? Tallied.of?
  split
  · next h => simp [List.isEmpty_iff.mp h, Tallied.toNumber, AttributeValue.total]
  · simp only [Tally.ofValues]
    split
    · next h => simp [Tallied.toNumber, AttributeValue.total, List.isEmpty_iff.mp h]
    · rfl

/-- Any value holds if one of them does. -/
theorem any_eq_any (c : Contributions) (key : AttributeKey) :
    c.any key = (c.values key).any AttributeValue.holds := by
  unfold any tally? Tallied.of?
  split
  · next h => simp [List.isEmpty_iff.mp h]
  · rfl

/-- The greatest number is that of the values which read as numbers. -/
theorem greatest_eq_max? (c : Contributions) (key : AttributeKey) :
    c.greatest key = ((c.values key).filterMap AttributeValue.toNumber?).max? := by
  unfold greatest tally? Tallied.of?
  split
  · next h => simp [List.isEmpty_iff.mp h]
  · simp only [Tally.ofValues, Option.map_map]
    exact Option.map_id_apply

/-- The least number is that of the values which read as numbers. -/
theorem least_eq_min? (c : Contributions) (key : AttributeKey) :
    c.least key = ((c.values key).filterMap AttributeValue.toNumber?).min? := by
  unfold least tally? Tallied.of?
  split
  · next h => simp [List.isEmpty_iff.mp h]
  · simp only [Tally.ofValues, Option.map_map]
    exact Option.map_id_apply

/-- Without a tally the values stay a list, if there are any. -/
theorem tally?_none (c : Contributions) (key : AttributeKey) :
    c.tally? key none = if c.values key = [] then none else some (.list (c.values key)) := by
  simp only [tally?, Tallied.of?, List.isEmpty_iff]

end Contributions

end CharacterSheet
