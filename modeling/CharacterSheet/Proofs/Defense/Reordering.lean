import CharacterSheet.Proofs.Defense.Resemblance

/-!
# Defenses and the order of possessions

However the items of a character and its own attributes are ordered, its defenses are the same, with
all columns and sources (`Actor.defenses_reordered`). All that is worked out of them are sums, extremes
and whether something holds anywhere. Only what is listed item by item, which are the bonuses for one
situation and the suits of armor, is listed in another order.
-/

namespace CharacterSheet.Actor

section perm

variable {actor : Actor} {items : List Item} {attributes : List Attribute}

theorem perm_wornStats_reordered (hitems : items.Perm actor.items) :
    { actor with items, attributes }.wornStats.Perm actor.wornStats :=
  (hitems.filter _).filterMap _

theorem perm_armorLines_reordered (hitems : items.Perm actor.items) :
    { actor with items, attributes }.armorLines.Perm actor.armorLines :=
  ((hitems.filter _).filter _).filterMap _

theorem perm_traitValues_reordered (hitems : items.Perm actor.items) (key : AttributeKey) :
    ({ actor with items, attributes }.subject.contributions.traitValues key).Perm
      (actor.subject.contributions.traitValues key) :=
  Attribute.perm_valuesOf (Subject.perm_fromTraits_contributions hitems) key

theorem perm_traitBonuses_reordered (hitems : items.Perm actor.items) :
    { actor with items, attributes }.subject.contributions.traitBonuses.Perm
      actor.subject.contributions.traitBonuses :=
  (perm_traitValues_reordered hitems .defenseBonuses).filterMap _

theorem traitBonus_reordered (hitems : items.Perm actor.items) (defense : DefenseScope) :
    { actor with items, attributes }.traitBonus defense = actor.traitBonus defense :=
  Reckoning.sum_eq_of_perm (((perm_traitBonuses_reordered hitems).filter _).map _)

theorem resembles_reordered (hitems : items.Perm actor.items)
    (hattributes : attributes.Perm actor.attributes) :
    { actor with items, attributes }.Resembles actor where
  heroicLevel := rfl
  characterLevel := rfl
  abilities := rfl
  wornStats := perm_wornStats_reordered hitems
  values key _ := Attribute.perm_valuesOf (Subject.perm_all_contributions hattributes hitems) key
  traitValues key _ := perm_traitValues_reordered hitems key

end perm

/-- With its items and its own attributes in any other order, a character has the same scores, down to
the last source of each, and the same damage reduction. The bonuses for one situation and the suits of
armor are the same up to their order. -/
theorem defenses_reordered (actor : Actor) {items : List Item} {attributes : List Attribute}
    (hitems : items.Perm actor.items) (hattributes : attributes.Perm actor.attributes) :
    let before := actor.defenses
    let after := { actor with items, attributes }.defenses
    after.fortitude = before.fortitude ∧ after.will = before.will ∧ after.reflex = before.reflex ∧
      after.damageThreshold = before.damageThreshold ∧
      after.damageReduction = before.damageReduction ∧
      after.situational.Perm before.situational ∧ after.armors.Perm before.armors := by
  intro before after
  have htraits (defense : DefenseScope) :
      { actor with items, attributes }.traitBonus defense = actor.traitBonus defense + 0 := by
    rw [traitBonus_reordered hitems, Int64.add_zero]
  -- nothing is added to any score, so only the lists can differ
  have heq : after =
      { before with situational := after.situational, armors := after.armors } := by
    have := (resembles_reordered hitems hattributes).defenses_eq htraits (Int64.add_zero _).symm
    rwa [Defenses.adjust_zero] at this
  refine ⟨(congrArg Defenses.fortitude heq :), (congrArg Defenses.will heq :),
    (congrArg Defenses.reflex heq :), (congrArg Defenses.damageThreshold heq :),
    (congrArg Defenses.damageReduction heq :), ?_, perm_armorLines_reordered hitems⟩
  exact (perm_traitBonuses_reordered hitems).filterMap _

/-- A droid of two classes in a suit that fits and a heavier one, with two bonuses for one situation
each. -/
def marksman : Actor where
  heroicLevel := 3
  abilities := { strength := 16, dexterity := 18 }
  condition := .minusOne
  attributes := [⟨.isDroid, .flag true⟩, ⟨.damageReduction, .number 2⟩]
  items := [
    { name := "Soldier", kind := .heroicClass,
      attributes := [⟨.classFortitudeDefenseBonus, .number 2⟩] },
    { name := "Scout", kind := .heroicClass,
      attributes := [⟨.classFortitudeDefenseBonus, .number 1⟩, ⟨.classReflexDefenseBonus, .text "2"⟩] },
    { name := "Wary", kind := .trait, attributes := [
      ⟨.defenseBonuses, .defenseBonus ⟨.reflex, 2, some "area attacks"⟩⟩,
      ⟨.defenseBonuses, .defenseBonus ⟨.all, 1, none⟩⟩,
      ⟨.defenseBonuses, .defenseBonus ⟨.will, -2, some "Persuasion"⟩⟩] },
    { name := "Flight Suit", kind := .armor, equipped := true,
      armor := some { type := .light, reflexBonus := some 3, maxDexterity := some 4 } },
    { name := "Plating", kind := .armor, equipped := true,
      armor := some { type := .heavy, reflexBonus := some 6, maxDexterity := some 1 } }]

theorem defenses_reordered_marksman :
    let after :=
      { marksman with
        items := marksman.items.reverse, attributes := marksman.attributes.reverse }.defenses
    marksman.items.reverse.Perm marksman.items ∧
      marksman.attributes.reverse.Perm marksman.attributes ∧
      after.reflex = marksman.defenses.reflex ∧ after.reflex.total = 19 ∧
      after.armors.Perm marksman.defenses.armors ∧ after.armors ≠ marksman.defenses.armors := by
  have hitems := List.reverse_perm marksman.items
  have hattributes := List.reverse_perm marksman.attributes
  obtain ⟨-, -, hreflex, -, -, -, harmors⟩ := marksman.defenses_reordered hitems hattributes
  exact ⟨hitems, hattributes, hreflex, by decide +kernel, harmors, by decide +kernel⟩

end CharacterSheet.Actor
