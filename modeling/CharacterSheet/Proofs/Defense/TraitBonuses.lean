import CharacterSheet.Proofs.Defense.Resemblance
import Mathlib.Data.List.Basic

/-!
# Bonuses that traits grant

A bonus to a defense is granted by an attribute of a trait. It is either summed or reported, once and
never both (`Actor.trait_bonus_counts_once`): without a situation it is added to the total, the last
column and the source of traits of the defenses that it applies to, and to the damage threshold by way
of Fortitude. For one situation only, it is one more line in words, at the place that it has among all
bonuses. The same attribute on anything but a trait has no effect at all.
-/

namespace CharacterSheet

/-! ## What a bonus adds -/

/-- The attribute by which a bonus is granted. -/
def DefenseBonus.attribute (bonus : DefenseBonus) : Attribute :=
  ⟨.defenseBonuses, .defenseBonus bonus⟩

/-- The score of a defense with one more bonus of traits, if that applies to it. -/
def DefenseScore.grant (score : DefenseScore) (defense : DefenseScope) (bonus : DefenseBonus) :
    DefenseScore :=
  if bonus.defense = .all ∨ bonus.defense = defense then
    score.raiseMisc "Traits" bonus.bonus
  else score

/-- The defenses with one more bonus of traits. -/
def Defenses.grant (defenses : Defenses) (bonus : DefenseBonus) : Defenses :=
  { defenses with
    fortitude := defenses.fortitude.grant .fortitude bonus
    will := defenses.will.grant .will bonus
    reflex := defenses.reflex.grant .reflex bonus
    damageThreshold :=
      if bonus.defense = .all ∨ bonus.defense = .fortitude then
        defenses.damageThreshold.raise "Fortitude Defense" bonus.bonus
      else defenses.damageThreshold }

namespace DefenseBonus

/-- What a bonus adds to a defense in every situation. -/
def share (bonus : DefenseBonus) (defense : DefenseScope) : Int64 :=
  if bonus.situation = none ∧ (bonus.defense = .all ∨ bonus.defense = defense) then
    bonus.bonus
  else 0

theorem sumFor_insert (defense : DefenseScope) (bonus : DefenseBonus)
    (front back : List DefenseBonus) : sumFor defense (front ++ bonus :: back) =
      sumFor defense (front ++ back) + bonus.share defense := by
  have hcounts : (bonus.situation.isNone && bonus.defense.covers defense) = true ↔
      bonus.situation = none ∧ (bonus.defense = .all ∨ bonus.defense = defense) := by
    simp [DefenseScope.covers]
  simp only [sumFor, share, List.filter_append, List.filter_cons, hcounts]
  split
  · simp
    grind
  · simp

theorem share_of_situation {bonus : DefenseBonus} {situation : String}
    (h : bonus.situation = some situation) : bonus.share = fun _ => 0 := by
  funext defense
  simp [share, h]

end DefenseBonus

theorem Defenses.adjust_share {bonus : DefenseBonus} (defenses : Defenses)
    (h : bonus.situation = none) : defenses.adjust bonus.share 0 = defenses.grant bonus := by
  have hscore : ∀ (score : DefenseScore) defense,
      score.adjust (bonus.share defense) 0 = score.grant defense bonus := by
    intro score defense
    rw [DefenseScore.adjust, DefenseScore.raiseMisc_zero, DefenseBonus.share,
      DefenseScore.grant]
    simp only [h, true_and]
    split
    · rfl
    · exact DefenseScore.raiseMisc_zero
  rw [adjust, hscore, hscore, hscore, grant, DefenseBonus.share, Int64.add_zero]
  simp only [h, true_and]
  split
  · rfl
  · rw [DefenseScore.raise_zero]

/-! ## Where bonuses stand -/

namespace Attribute

variable {key : AttributeKey} {a : Attribute} {front back : List Attribute}

theorem valuesOf_insert_of_ne (hkey : key ≠ .defenseBonuses) (bonus : DefenseBonus)
    (front back : List Attribute) :
    valuesOf key (front ++ bonus.attribute :: back) = valuesOf key (front ++ back) := by
  have hother : (bonus.attribute.key == key) = false := beq_eq_false_iff_ne.mpr hkey.symm
  simp only [valuesOf, List.filter_append, List.filter_cons, hother, Bool.false_eq_true, if_false]

/-- An item with other attributes gives the same values if these do. -/
theorem valuesOf_flatMap_replaced {p : Item → Bool} {item : Item} {attributes : List Attribute}
    (hp : p { item with attributes } = p item)
    (hvalues : valuesOf key attributes = valuesOf key item.attributes) (first last : List Item) :
    valuesOf key
        (((first ++ { item with attributes } :: last).filter p).flatMap (·.attributes)) =
      valuesOf key (((first ++ item :: last).filter p).flatMap (·.attributes)) := by
  simp only [List.filter_append, List.filter_cons, hp, List.flatMap_append, valuesOf_append]
  split
  · rw [List.flatMap_cons, List.flatMap_cons, valuesOf_append, valuesOf_append, hvalues]
  · rfl

/-- The bonuses that attributes grant, in order. -/
def bonuses (attributes : List Attribute) : List DefenseBonus :=
  (valuesOf .defenseBonuses attributes).filterMap AttributeValue.bonus?

theorem bonuses_append (front back : List Attribute) :
    bonuses (front ++ back) = bonuses front ++ bonuses back := by
  rw [bonuses, valuesOf_append, List.filterMap_append, bonuses, bonuses]

theorem bonuses_insert (bonus : DefenseBonus) (front back : List Attribute) :
    bonuses (front ++ bonus.attribute :: back) = bonuses front ++ bonus :: bonuses back := by
  rw [bonuses_append]
  rfl

/-- The words of an attribute that grants a bonus for one situation. -/
def situationalText? (a : Attribute) : Option String :=
  if a.key = .defenseBonuses then a.value.bonus?.bind DefenseBonus.situationalText? else none

theorem filterMap_situationalText? (attributes : List Attribute) :
    (bonuses attributes).filterMap DefenseBonus.situationalText? =
      attributes.filterMap situationalText? := by
  rw [bonuses, valuesOf, List.filterMap_map, List.filterMap_filter, List.filterMap_filterMap]
  refine List.filterMap_congr fun a _ => ?_
  simp only [situationalText?, beq_iff_eq]
  split <;> rfl

end Attribute

/-- The attributes of the traits among some items. -/
def Item.traitAttributes (items : List Item) : List Attribute :=
  (items.filter (·.kind == .trait)).flatMap (·.attributes)

namespace Actor

/-! ## One more attribute on an item -/

variable {actor : Actor} {first last : List Item} {item : Item} {front back : List Attribute}

section replaced

variable (hitems : actor.items = first ++ item :: last) (attributes : List Attribute)
include hitems

theorem wornStats_replaced :
    { actor with items := first ++ { item with attributes } :: last }.wornStats =
      actor.wornStats := by
  simp only [wornStats, equipped, List.filterMap_filter, hitems, List.filterMap_append,
    List.filterMap_cons]

theorem armorLines_replaced :
    { actor with items := first ++ { item with attributes } :: last }.armorLines =
      actor.armorLines := by
  simp only [armorLines, equipped, List.filterMap_filter, hitems, List.filterMap_append,
    List.filterMap_cons]
  rfl

end replaced

theorem traitAttributes_replaced (hkind : item.kind = .trait) (attributes : List Attribute) :
    Item.traitAttributes (first ++ { item with attributes } :: last) =
      Item.traitAttributes first ++ attributes ++ Item.traitAttributes last := by
  simp [Item.traitAttributes, hkind]

theorem traitAttributes_replaced_of_ne (hkind : item.kind ≠ .trait) (attributes : List Attribute) :
    Item.traitAttributes (first ++ { item with attributes } :: last) =
      Item.traitAttributes (first ++ item :: last) := by
  simp [Item.traitAttributes, hkind]

/-! ## Characters with one more bonus -/

theorem traitBonuses_eq (actor : Actor) : actor.subject.contributions.traitBonuses =
    Attribute.bonuses (Item.traitAttributes actor.items) := rfl

/-- Of an attribute that grants a bonus the defenses read nothing but the bonus. -/
theorem resembles_granted (hitems : actor.items = first ++ item :: last)
    (hattributes : item.attributes = front ++ back) (bonus : DefenseBonus) :
    let attributes := front ++ bonus.attribute :: back
    { actor with items := first ++ { item with attributes } :: last }.Resembles actor := by
  intro attributes
  have hvalues : ∀ key : AttributeKey, key ≠ .defenseBonuses →
      Attribute.valuesOf key attributes = Attribute.valuesOf key item.attributes := by
    intro key hkey
    rw [hattributes]
    exact Attribute.valuesOf_insert_of_ne hkey bonus front back
  refine ⟨rfl, rfl, rfl, ?_, fun key hkey => ?_, fun key hkey => ?_⟩
  · rw [wornStats_replaced hitems]
  · simp only [Contributions.values, Subject.contributions, subject, hitems,
      Attribute.valuesOf_append]
    rw [Attribute.valuesOf_flatMap_replaced rfl (hvalues key hkey)]
  · simp only [Contributions.traitValues, Subject.contributions, Subject.itemsOf, subject, hitems]
    rw [Attribute.valuesOf_flatMap_replaced rfl (hvalues key hkey)]

theorem resembles_granted_own (hattributes : actor.attributes = front ++ back)
    (bonus : DefenseBonus) :
    { actor with attributes := front ++ bonus.attribute :: back }.Resembles actor := by
  refine ⟨rfl, rfl, rfl, .refl _, fun key hkey => ?_, fun key hkey => .refl _⟩
  simp only [Contributions.values, Subject.contributions, subject, hattributes, List.append_assoc,
    List.cons_append]
  rw [Attribute.valuesOf_insert_of_ne hkey bonus]

/-- Two characters whose traits grant the same bonuses have the same defenses. -/
theorem Resembles.defenses_eq_of_bonuses {actor' : Actor} (h : actor'.Resembles actor)
    (hbonuses : actor'.subject.contributions.traitBonuses =
      actor.subject.contributions.traitBonuses)
    (hcondition : actor'.condition = actor.condition)
    (harmors : actor'.armorLines = actor.armorLines) : actor'.defenses = actor.defenses := by
  have htraits (defense : DefenseScope) :
      actor'.traitBonus defense = actor.traitBonus defense + 0 := by
    rw [traitBonus, hbonuses, traitBonus, Int64.add_zero]
  have hpenalty : actor'.condition.penalty = actor.condition.penalty + 0 := by
    rw [hcondition, Int64.add_zero]
  have hsituational : actor'.defenses.situational = actor.defenses.situational := by
    simp only [defenses, hbonuses]
  have harmors : actor'.defenses.armors = actor.defenses.armors := harmors
  rw [h.defenses_eq htraits hpenalty, Defenses.adjust_zero, hsituational, harmors]

section trait

variable (hitems : actor.items = first ++ item :: last) (hattributes : item.attributes = front ++ back)
  (hkind : item.kind = .trait)
include hitems hattributes hkind

/-- The bonuses of a character, of which those of one trait are split. -/
theorem traitBonuses_split : actor.subject.contributions.traitBonuses =
    Attribute.bonuses (Item.traitAttributes first ++ front) ++
      Attribute.bonuses (back ++ Item.traitAttributes last) := by
  have hitem : item = { item with attributes := front ++ back } := by rw [← hattributes]
  rw [traitBonuses_eq, hitems, hitem, traitAttributes_replaced hkind, ← Attribute.bonuses_append]
  simp only [List.append_assoc]

theorem situational_split : actor.defenses.situational =
    (Item.traitAttributes first ++ front).filterMap Attribute.situationalText? ++
      (back ++ Item.traitAttributes last).filterMap Attribute.situationalText? := by
  rw [← Attribute.filterMap_situationalText?, ← Attribute.filterMap_situationalText?,
    ← List.filterMap_append, ← traitBonuses_split hitems hattributes hkind]
  rfl

/-- A bonus that a trait grants is added as far as it lasts, and put in words as far as it does not. -/
theorem defenses_granted (bonus : DefenseBonus) :
    let attributes := front ++ bonus.attribute :: back
    { actor with items := first ++ { item with attributes } :: last }.defenses =
      { actor.defenses.adjust bonus.share 0 with
        situational :=
          (Item.traitAttributes first ++ front).filterMap Attribute.situationalText? ++
            (bonus.situationalText?.toList ++
              (back ++ Item.traitAttributes last).filterMap Attribute.situationalText?) } := by
  intro attributes
  let granted : Actor := { actor with items := first ++ { item with attributes } :: last }
  have hbonuses : granted.subject.contributions.traitBonuses =
      Attribute.bonuses (Item.traitAttributes first ++ front) ++
        bonus :: Attribute.bonuses (back ++ Item.traitAttributes last) := by
    rw [traitBonuses_eq, traitAttributes_replaced hkind, ← Attribute.bonuses_insert]
    simp only [attributes, List.append_assoc, List.cons_append]
  have htraits (defense : DefenseScope) :
      granted.traitBonus defense = actor.traitBonus defense + bonus.share defense := by
    rw [traitBonus, traitBonus, hbonuses, traitBonuses_split hitems hattributes hkind,
      DefenseBonus.sumFor_insert]
  have hsituational : granted.defenses.situational =
      (Item.traitAttributes first ++ front).filterMap Attribute.situationalText? ++
        (bonus.situationalText?.toList ++
          (back ++ Item.traitAttributes last).filterMap Attribute.situationalText?) := by
    change granted.subject.contributions.traitBonuses.filterMap DefenseBonus.situationalText? = _
    rw [hbonuses, List.filterMap_append, Attribute.filterMap_situationalText?, List.filterMap_cons,
      Attribute.filterMap_situationalText?]
    cases bonus.situationalText? with
    | none => rfl
    | some text => rfl
  have harmors : granted.defenses.armors = actor.defenses.armors :=
    armorLines_replaced hitems attributes
  have hgranted : granted.Resembles actor := resembles_granted hitems hattributes bonus
  rw [hgranted.defenses_eq htraits (Int64.add_zero _).symm, hsituational, harmors]
  rfl

end trait

/-- A bonus that a trait grants is summed or reported. Without a situation, an attribute that grants it,
wherever it stands among those of a trait, adds it to the defenses that it applies to. For one situation
it only adds its words behind those of the attributes in front of it. On any other item or among the
character's own attributes it changes nothing. -/
theorem trait_bonus_counts_once (actor : Actor) (bonus : DefenseBonus) :
    (∀ first item last front back, actor.items = first ++ item :: last →
      item.attributes = front ++ back →
      let attributes := front ++ bonus.attribute :: back
      let granted := { actor with items := first ++ { item with attributes } :: last }
      if item.kind = .trait then
        match bonus.situation with
        | none => granted.defenses = actor.defenses.grant bonus
        | some situation =>
          let earlier := (Item.traitAttributes first ++ front).filterMap Attribute.situationalText?
          let later := (back ++ Item.traitAttributes last).filterMap Attribute.situationalText?
          let text := situationalText bonus.bonus bonus.defense situation
          actor.defenses.situational = earlier ++ later ∧
            granted.defenses = { actor.defenses with situational := earlier ++ text :: later }
      else granted.defenses = actor.defenses) ∧
      ∀ front back, actor.attributes = front ++ back →
        { actor with attributes := front ++ bonus.attribute :: back }.defenses =
          actor.defenses := by
  refine ⟨fun first item last front back hitems hattributes => ?_, fun front back hattributes =>
    (resembles_granted_own hattributes bonus).defenses_eq_of_bonuses rfl rfl rfl⟩
  intro attributes granted
  have h : granted.Resembles actor := resembles_granted hitems hattributes bonus
  have harmors : granted.defenses.armors = actor.defenses.armors :=
    armorLines_replaced hitems attributes
  split
  case isFalse hkind =>
    refine h.defenses_eq_of_bonuses ?_ rfl harmors
    rw [traitBonuses_eq, traitBonuses_eq, hitems]
    exact congrArg Attribute.bonuses (traitAttributes_replaced_of_ne hkind attributes)
  case isTrue hkind =>
    have hgranted := defenses_granted hitems hattributes hkind bonus
    have hsituational := situational_split hitems hattributes hkind
    split
    case h_1 hlasting =>
      have htext : bonus.situationalText? = none := by rw [DefenseBonus.situationalText?, hlasting]; rfl
      rw [hgranted, Defenses.adjust_share _ hlasting, htext, Option.toList_none, List.nil_append,
        ← hsituational]
      rfl
    case h_2 situation hsituation =>
      have htext : bonus.situationalText? =
          some (situationalText bonus.bonus bonus.defense situation) := by
        rw [DefenseBonus.situationalText?, hsituation]; rfl
      refine ⟨hsituational, ?_⟩
      rw [hgranted, DefenseBonus.share_of_situation hsituation, Defenses.adjust_zero, htext]
      rfl

/-- A trait that grants a bonus for one situation and one that lasts. -/
def steadfast : Item where
  name := "Steadfast"
  kind := .trait
  attributes := [DefenseBonus.attribute ⟨.will, 2, some "fear"⟩,
    DefenseBonus.attribute ⟨.fortitude, 1, none⟩]

/-- A character with that trait who wears robes. -/
def guardian : Actor where
  items := [steadfast, { name := "Robes", kind := .equipment, equipped := true }]

theorem trait_bonus_counts_once_guardian :
    let courage : DefenseBonus := ⟨.all, 1, none⟩
    let calm : DefenseBonus := ⟨.will, -1, some "Persuasion"⟩
    let robes : Item := { name := "Robes", kind := .equipment, equipped := true }
    let withTrait (bonus : DefenseBonus) : Actor := { guardian with
      items := [{ steadfast with attributes := [DefenseBonus.attribute ⟨.will, 2, some "fear"⟩,
        bonus.attribute, DefenseBonus.attribute ⟨.fortitude, 1, none⟩] }, robes] }
    let withRobes : Actor :=
      { guardian with items := [steadfast, { robes with attributes := [courage.attribute] }] }
    (withTrait courage).defenses = guardian.defenses.grant courage ∧
      (withTrait courage).defenses.fortitude.total = 12 ∧
      (withTrait calm).defenses.situational =
        ["+2 bonus to their Will Defense to resist fear",
          "-1 penalty to their Will Defense to resist Persuasion"] ∧
      withRobes.defenses = guardian.defenses := by
  intro courage calm robes withTrait withRobes
  obtain ⟨hcourage, -⟩ := guardian.trait_bonus_counts_once courage
  obtain ⟨hcalm, -⟩ := guardian.trait_bonus_counts_once calm
  have hsummed := hcourage [] steadfast [robes] [_] [_] rfl rfl
  obtain ⟨-, hreported⟩ := hcalm [] steadfast [robes] [_] [_] rfl rfl
  have hignored := hcourage [steadfast] robes [] [] [] rfl rfl
  have htexts := congrArg Defenses.situational hreported
  exact ⟨hsummed, by decide +kernel, htexts.trans (by decide +kernel), hignored⟩

end Actor

end CharacterSheet
