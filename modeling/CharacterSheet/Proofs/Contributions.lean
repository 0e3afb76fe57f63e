import CharacterSheet.Contributions
import Mathlib.Order.Bounds.Basic

/-!
# Contributions in another order

The order of possessions is that of their contributions. Tallies do not see it: what stands under a key
is the same up to order, and so has the same sum and the same greatest number, and holds in the same
places. A machine sum is the same in any order, also where it goes around its range; a build that checks
for that may stop in one order and not in another. The extremes of a list are those of its elements as a
set.
-/

namespace CharacterSheet

/-! ## Extremes -/

section extremes

variable {as bs : List Int64} {a : Int64}

theorem max?_eq_some_iff_isGreatest : as.max? = some a ↔ IsGreatest {b | b ∈ as} a :=
  List.max?_eq_some_iff

theorem min?_eq_some_iff_isLeast : as.min? = some a ↔ IsLeast {b | b ∈ as} a :=
  List.min?_eq_some_iff

theorem max?_eq_of_perm (h : as.Perm bs) : as.max? = bs.max? := by
  refine Option.ext fun a => ?_
  rw [List.max?_eq_some_iff, List.max?_eq_some_iff]
  simp only [h.mem_iff]

theorem min?_eq_of_perm (h : as.Perm bs) : as.min? = bs.min? := by
  refine Option.ext fun a => ?_
  rw [List.min?_eq_some_iff, List.min?_eq_some_iff]
  simp only [h.mem_iff]

end extremes

/-! ## Attributes and items -/

theorem Attribute.valuesOf_append (key : AttributeKey) (front back : List Attribute) :
    valuesOf key (front ++ back) = valuesOf key front ++ valuesOf key back := by
  rw [valuesOf, List.filter_append, List.map_append, valuesOf, valuesOf]

/-- Attributes in another order give the values under a key in another order. -/
theorem Attribute.perm_valuesOf {attributes attributes' : List Attribute}
    (h : attributes'.Perm attributes) (key : AttributeKey) :
    (valuesOf key attributes').Perm (valuesOf key attributes) :=
  (h.filter _).map _

/-- Attributes and items in another order make the same contributions in another order. -/
theorem Subject.perm_all_contributions {subject subject' : Subject}
    (hattributes : subject'.attributes.Perm subject.attributes)
    (hitems : subject'.items.Perm subject.items) :
    subject'.contributions.all.Perm subject.contributions.all :=
  hattributes.append ((hitems.filter _).flatMap_right _)

theorem Subject.perm_fromTraits_contributions {subject subject' : Subject}
    (hitems : subject'.items.Perm subject.items) :
    subject'.contributions.fromTraits.Perm subject.contributions.fromTraits :=
  (hitems.filter _).flatMap_right _

/-! ## Tallies -/

namespace Contributions

variable {c c' : Contributions} {key : AttributeKey}

section values

variable (h : (c'.values key).Perm (c.values key))
include h

theorem sum_eq_of_perm_values : c'.sum key = c.sum key := by
  rw [sum_eq_total, sum_eq_total]
  exact Reckoning.sum_eq_of_perm (h.filterMap _)

theorem any_eq_of_perm_values : c'.any key = c.any key := by
  rw [any_eq_any, any_eq_any]
  exact h.any_eq

theorem greatest_eq_of_perm_values : c'.greatest key = c.greatest key := by
  rw [greatest_eq_max?, greatest_eq_max?]
  exact max?_eq_of_perm (h.filterMap _)

end values

theorem sumFromTraits_eq_of_perm (h : (c'.traitValues key).Perm (c.traitValues key)) :
    c'.sumFromTraits key = c.sumFromTraits key :=
  Reckoning.sum_eq_of_perm (h.filterMap _)

theorem sum_eq_of_perm (h : c'.all.Perm c.all) (key : AttributeKey) : c'.sum key = c.sum key :=
  sum_eq_of_perm_values (Attribute.perm_valuesOf h key)

theorem any_eq_of_perm (h : c'.all.Perm c.all) (key : AttributeKey) : c'.any key = c.any key :=
  any_eq_of_perm_values (Attribute.perm_valuesOf h key)

end Contributions

end CharacterSheet
