import CharacterSheet.Defense.Basic
import CharacterSheet.Proofs.Contributions

/-!
# Characters that look alike to the defenses

The defenses of a character read its levels, its abilities, the armor that is worn and the values of
attributes under a few keys, in no order. Two characters that have these in common
(`Actor.Resembles`) can only differ in what traits grant and in their steps on the condition track. Each
of the two has a source of its own in every score and is part of the same column, so the scores of the
one are those of the other with the difference added there (`Resembles.fortitude_eq` and so on).
-/

namespace CharacterSheet

/-! ## Scores that are raised -/

namespace DefenseScore

variable {score : DefenseScore} {label : String}

/-- The score with `value` more in its total and in the source of that label. -/
def raise (score : DefenseScore) (label : String) (value : Int64) : DefenseScore :=
  { score with
    total := score.total + value
    sources := score.sources.map fun source =>
      if source.1 = label then (source.1, source.2 + value) else source }

/-- The score with `value` more in the last of its columns as well. -/
def raiseMisc (score : DefenseScore) (label : String) (value : Int64) : DefenseScore :=
  { score.raise label value with miscBonus := score.miscBonus + value }

theorem raise_zero : score.raise label 0 = score := by
  have hsources : score.sources.map (fun source =>
      if source.1 = label then (source.1, source.2 + 0) else source) = score.sources := by
    simp
  rw [raise, hsources, Int64.add_zero]

theorem raiseMisc_zero : score.raiseMisc label 0 = score := by
  rw [raiseMisc, raise_zero, Int64.add_zero]

/-- The score of a character for whom traits and the condition track add so much more. -/
def adjust (score : DefenseScore) (traits condition : Int64) : DefenseScore :=
  (score.raiseMisc "Traits" traits).raiseMisc "Condition" condition

theorem adjust_zero : score.adjust 0 0 = score := by
  rw [adjust, raiseMisc_zero, raiseMisc_zero]

theorem total_adjust (traits condition : Int64) :
    (score.adjust traits condition).total = score.total + traits + condition := rfl

/-- An adjusted score is a score again, with the same labels. -/
theorem adjust_mk (total ability armor classes misc : Int64) (sources : List (String × Int64))
    (traits condition : Int64) :
    adjust ⟨total, ability, armor, classes, misc, sources⟩ traits condition =
      ⟨total + traits + condition, ability, armor, classes, misc + traits + condition,
        (sources.map fun source =>
          if source.1 = "Traits" then (source.1, source.2 + traits) else source).map fun source =>
            if source.1 = "Condition" then (source.1, source.2 + condition) else source⟩ := rfl

end DefenseScore

/-- The defenses of a character for whom traits and the condition track add so much more. The damage
threshold follows Fortitude. -/
def Defenses.adjust (defenses : Defenses) (traits : DefenseScope → Int64) (condition : Int64) :
    Defenses :=
  { defenses with
    fortitude := defenses.fortitude.adjust (traits .fortitude) condition
    will := defenses.will.adjust (traits .will) condition
    reflex := defenses.reflex.adjust (traits .reflex) condition
    damageThreshold :=
      defenses.damageThreshold.raise "Fortitude Defense" (traits .fortitude + condition) }

theorem Defenses.adjust_zero (defenses : Defenses) : defenses.adjust (fun _ => 0) 0 = defenses := by
  rw [adjust, DefenseScore.adjust_zero, DefenseScore.adjust_zero, DefenseScore.adjust_zero,
    Int64.add_zero, DefenseScore.raise_zero]

/-! ## Characters that resemble each other -/

namespace Actor

/-- What the traits of a character add to a defense in every situation. -/
def traitBonus (actor : Actor) (defense : DefenseScope) : Int64 :=
  DefenseBonus.sumFor defense actor.subject.contributions.traitBonuses

/-- The defenses read the same of both characters, but for bonuses that traits grant and the step on the
condition track. -/
structure Resembles (actor' actor : Actor) : Prop where
  heroicLevel : actor'.heroicLevel = actor.heroicLevel
  characterLevel : actor'.characterLevel = actor.characterLevel
  abilities : actor'.abilities = actor.abilities
  wornStats : actor'.wornStats.Perm actor.wornStats
  values : ∀ key ≠ .defenseBonuses, (actor'.subject.contributions.values key).Perm
    (actor.subject.contributions.values key)
  traitValues : ∀ key ≠ .defenseBonuses, (actor'.subject.contributions.traitValues key).Perm
    (actor.subject.contributions.traitValues key)

namespace Resembles

variable {actor actor' : Actor} (h : actor'.Resembles actor)
include h

theorem sum_eq (key : AttributeKey) (hkey : key ≠ .defenseBonuses) :
    actor'.subject.contributions.sum key = actor.subject.contributions.sum key :=
  Contributions.sum_eq_of_perm_values (h.values key hkey)

theorem any_eq (key : AttributeKey) (hkey : key ≠ .defenseBonuses) :
    actor'.subject.contributions.any key = actor.subject.contributions.any key :=
  Contributions.any_eq_of_perm_values (h.values key hkey)

theorem classBonus_eq (key : AttributeKey) (hkey : key ≠ .defenseBonuses) :
    classBonus actor'.subject.contributions key = classBonus actor.subject.contributions key := by
  rw [classBonus, classBonus, Contributions.greatest_eq_of_perm_values (h.values key hkey)]

theorem sumFromTraits_eq (key : AttributeKey) (hkey : key ≠ .defenseBonuses) :
    actor'.subject.contributions.sumFromTraits key =
      actor.subject.contributions.sumFromTraits key :=
  Contributions.sumFromTraits_eq_of_perm (h.traitValues key hkey)

theorem armorTerm_eq : actor'.armorTerm = actor.armorTerm := by
  have hbest : actor'.bestArmor = actor.bestArmor :=
    max?_eq_of_perm ((h.wornStats.filterMap _).filter _)
  rw [armorTerm, armorTerm, hbest, h.heroicLevel]

theorem dexterityTerm_eq : actor'.dexterityTerm = actor.dexterityTerm := by
  have hcap : actor'.dexterityCap = actor.dexterityCap :=
    min?_eq_of_perm (h.wornStats.filterMap _)
  rw [dexterityTerm, dexterityTerm, hcap, h.abilities]

/-! ## Their defenses -/

variable {traits : DefenseScope → Int64} {condition : Int64}
  (htraits : ∀ defense, actor'.traitBonus defense = actor.traitBonus defense + traits defense)
  (hcondition : actor'.condition.penalty = actor.condition.penalty + condition)
include htraits hcondition

theorem fortitude_eq : actor'.defenses.fortitude =
    actor.defenses.fortitude.adjust (traits .fortitude) condition := by
  have htraits := htraits .fortitude
  simp only [traitBonus] at htraits
  simp only [defenses, fortitude, htraits, hcondition, h.heroicLevel, h.abilities,
    h.any_eq .ignoreCon (by decide), h.any_eq .isDroid (by decide),
    h.classBonus_eq .classFortitudeDefenseBonus (by decide),
    h.sum_eq .fortitudeDefenseBonus (by decide), DefenseScore.ofSources_eq]
  split
  · simp [DefenseScore.adjust_mk]
    grind
  · simp [DefenseScore.adjust_mk]
    grind

theorem will_eq : actor'.defenses.will =
    actor.defenses.will.adjust (traits .will) condition := by
  have htraits := htraits .will
  simp only [traitBonus] at htraits
  simp only [defenses, will, htraits, hcondition, h.heroicLevel, h.characterLevel, h.abilities,
    h.classBonus_eq .classWillDefenseBonus (by decide), DefenseScore.ofSources_eq]
  simp [DefenseScore.adjust_mk]
  grind

theorem reflex_eq : actor'.defenses.reflex =
    actor.defenses.reflex.adjust (traits .reflex) condition := by
  have htraits := htraits .reflex
  simp only [traitBonus] at htraits
  simp only [defenses, reflex, htraits, hcondition, h.armorTerm_eq, h.dexterityTerm_eq,
    h.classBonus_eq .classReflexDefenseBonus (by decide),
    h.sumFromTraits_eq .sizeModifier (by decide),
    h.sum_eq .dodgeReflexDefenseBonus (by decide), DefenseScore.ofSources_eq]
  unfold armorTerm
  split
  · simp [DefenseScore.adjust_mk]
    grind
  · simp [DefenseScore.adjust_mk]
    grind

theorem damageThreshold_eq : actor'.defenses.damageThreshold =
    actor.defenses.damageThreshold.raise "Fortitude Defense" (traits .fortitude + condition) := by
  have hfortitude := congrArg DefenseScore.total (h.fortitude_eq htraits hcondition)
  simp only [defenses] at hfortitude
  simp only [defenses, hfortitude, h.sumFromTraits_eq .damageThresholdSizeModifier (by decide),
    DefenseScore.ofSources_eq]
  simp [DefenseScore.total_adjust, DefenseScore.raise]
  grind

/-- Whatever traits and the condition track add is added to the scores, and nothing else is different
but what is listed item by item. -/
theorem defenses_eq : actor'.defenses = { actor.defenses.adjust traits condition with
    situational := actor'.defenses.situational
    armors := actor'.defenses.armors } := by
  have hreduction : actor'.defenses.damageReduction = actor.defenses.damageReduction :=
    h.sum_eq .damageReduction (by decide)
  rw [Defenses.adjust, ← h.fortitude_eq htraits hcondition, ← h.will_eq htraits hcondition,
    ← h.reflex_eq htraits hcondition, ← h.damageThreshold_eq htraits hcondition, ← hreduction]

end Resembles

end Actor

end CharacterSheet
