import CharacterSheet.Contributions
import CharacterSheet.Defense.Armor
import CharacterSheet.Defense.Score

/-!
# Defenses

The three defenses of a character and its damage threshold. Each is ten plus what levels, abilities,
classes, traits, gear, size and the condition track add to it, and each lists these terms in the order
of the sheet. Bonuses that traits grant for one situation only are not summed but reported in words.

Where a character has no constitution that could help it, being a droid for instance, its strength
stands in. Reflex is of two minds about armor: the best bonus of the armor that is worn takes the
place of the heroic level, and the tightest limit caps what Dexterity adds.

All of this is reckoned in machine numbers, which go around their range where they leave it.
-/

namespace CharacterSheet

/-- What every defense starts from. -/
def baseDefense : Int64 := 10

/-- A bonus for one situation, in words. -/
def situationalText (bonus : Int64) (defense : DefenseScope) (situation : String) : String :=
  let sign := if 0 ≤ bonus.toInt then "+" else ""
  let word := if bonus.toInt < 0 then "penalty" else "bonus"
  sign ++ Text.integer bonus.toInt ++ " " ++ word ++ " to their " ++ defense.title ++
    " Defense to resist " ++ situation

namespace DefenseBonus

/-- The words for a bonus, if it is for one situation only. -/
def situationalText? (bonus : DefenseBonus) : Option String :=
  bonus.situation.map fun situation => situationalText bonus.bonus bonus.defense situation

/-- What bonuses add to a defense in every situation. -/
def sumFor (defense : DefenseScope) (bonuses : List DefenseBonus) : Int64 :=
  let lasting := bonuses.filter fun b => b.situation.isNone && b.defense.covers defense
  Reckoning.sum (lasting.map (·.bonus))

end DefenseBonus

namespace Actor

/-- The greatest bonus of a class, where a character may have several. -/
def classBonus (c : Contributions) (key : AttributeKey) : Int64 :=
  (c.greatest key).getD 0

/-- The score of Fortitude. -/
def fortitude (actor : Actor) (c : Contributions) : DefenseScore :=
  let heroic := Reckoning.ofLevel actor.heroicLevel
  let (label, ability) : String × Ability :=
    if c.any .ignoreCon || c.any .isDroid then ("Strength", .strength)
    else ("Constitution", .constitution)
  let abilityBonus := actor.abilities.modifier ability
  let traits := DefenseBonus.sumFor .fortitude c.traitBonuses
  let classes := classBonus c .classFortitudeDefenseBonus
  let equipment := c.sum .fortitudeDefenseBonus
  let condition := actor.condition.penalty
  { DefenseScore.ofSources [
      ("Base", baseDefense),
      ("Heroic Level", heroic),
      (label, abilityBonus),
      ("Traits", traits),
      ("Class", classes),
      ("Equipment", equipment),
      ("Condition", condition)] with
    abilityBonus
    armorBonus := equipment + heroic
    classBonus := classes
    miscBonus := condition + traits }

/-- The score of Will. -/
def will (actor : Actor) (c : Contributions) : DefenseScore :=
  let heroic := Reckoning.ofLevel actor.heroicLevel
  let abilityBonus := actor.abilities.modifier .wisdom
  let classes := max (classBonus c .classWillDefenseBonus) 0
  let traits := DefenseBonus.sumFor .will c.traitBonuses
  let condition := actor.condition.penalty
  { DefenseScore.ofSources [
      ("Base", baseDefense),
      ("Heroic Level", heroic),
      ("Character Level", Reckoning.ofLevel actor.characterLevel),
      ("Wisdom", abilityBonus),
      ("Class", classes),
      ("Traits", traits),
      ("Condition", condition)] with
    abilityBonus
    armorBonus := heroic
    classBonus := classes
    miscBonus := traits + condition }

/-- The greatest bonus to Reflex of the armor that is worn. A suit that says zero grants none. -/
def bestArmor (actor : Actor) : Option Int64 :=
  ((actor.wornStats.filterMap (·.reflexBonus)).filter (· != 0)).max?

/-- The tightest limit that the armor which is worn sets to Dexterity. -/
def dexterityCap (actor : Actor) : Option Int64 :=
  (actor.wornStats.filterMap (·.maxDexterity)).min?

/-- What armor adds to Reflex, or the heroic level without any, each with its label. -/
def armorTerm (actor : Actor) : String × Int64 :=
  match actor.bestArmor with
  | some bonus => ("Armor", bonus)
  | none => ("Heroic Level", Reckoning.ofLevel actor.heroicLevel)

/-- What Dexterity adds to Reflex. -/
def dexterityTerm (actor : Actor) : Int64 :=
  let dexterity := actor.abilities.modifier .dexterity
  match actor.dexterityCap with
  | some cap => min dexterity cap
  | none => dexterity

/-- The score of Reflex. -/
def reflex (actor : Actor) (c : Contributions) : DefenseScore :=
  let (label, armor) := actor.armorTerm
  let abilityBonus := actor.dexterityTerm
  let traits := DefenseBonus.sumFor .reflex c.traitBonuses
  let classes := max (classBonus c .classReflexDefenseBonus) 0
  let condition := actor.condition.penalty
  let dodge := c.sum .dodgeReflexDefenseBonus
  { DefenseScore.ofSources [
      ("Base", baseDefense),
      (label, armor),
      ("Dexterity", abilityBonus),
      ("Traits", traits),
      ("Class", classes),
      ("Size", c.sumFromTraits .sizeModifier),
      ("Condition", condition),
      ("Dodge", dodge)] with
    abilityBonus
    armorBonus := armor
    classBonus := classes
    miscBonus := traits + condition + dodge }

end Actor

/-- The defenses of a character. -/
structure Defenses where
  fortitude : DefenseScore
  will : DefenseScore
  reflex : DefenseScore
  damageThreshold : DefenseScore
  damageReduction : Int64
  /-- the bonuses for one situation only, in words -/
  situational : List String
  /-- the suits of armor that are worn -/
  armors : List ArmorLine
  deriving DecidableEq

/-- Works out the defenses of a character. -/
def Actor.defenses (actor : Actor) : Defenses :=
  let c := actor.subject.contributions
  let fortitude := actor.fortitude c
  { fortitude
    will := actor.will c
    reflex := actor.reflex c
    damageThreshold := DefenseScore.ofSources [
      ("Fortitude Defense", fortitude.total),
      ("Size", c.sumFromTraits .damageThresholdSizeModifier)]
    damageReduction := c.sum .damageReduction
    situational := c.traitBonuses.filterMap DefenseBonus.situationalText?
    armors := actor.armorLines }

/-- The defenses as a file has them, where the damage threshold goes by two names. -/
def Defenses.toJson (defenses : Defenses) : Json :=
  .object [
    ("defense", .object [
      ("fort", defenses.fortitude.toJson),
      ("will", defenses.will.toJson),
      ("ref", defenses.reflex.toJson),
      ("dt", defenses.damageThreshold.toJson),
      ("damageThreshold", defenses.damageThreshold.toJson),
      ("damageReduction", .integer defenses.damageReduction.toInt),
      ("situationalBonuses", Json.list .string defenses.situational)]),
    ("armors", Json.list ArmorLine.toJson defenses.armors)]

end CharacterSheet
