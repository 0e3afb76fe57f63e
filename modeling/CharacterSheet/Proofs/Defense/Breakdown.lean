import CharacterSheet.Proofs.Defense.Resemblance

/-!
# The breakdown of a defense explains its total

The sheet shows a total, the sources it is the sum of and four columns that overlap with them. Sources
always add up to the total. Ten and the columns do so for Fortitude; Will has the character level and
Reflex the size of the character besides (`Actor.breakdown_explains_total`). The condition track moves
all totals alike and touches only the last column.

All of this holds of machine numbers, whether or not they go around their range, and of the integers
where these are in range.
-/

namespace CharacterSheet

namespace DefenseScore

/-- The values of the sources. -/
def values (score : DefenseScore) : List Int64 :=
  score.sources.map (·.2)

/-- What the four columns show. -/
def columns (score : DefenseScore) : List Int64 :=
  [score.abilityBonus, score.armorBonus, score.classBonus, score.miscBonus]

/-- What the total has besides ten and the columns is `rest`. Of the integers this is said where all of
it together is in range. -/
structure ExceedsColumnsBy (score : DefenseScore) (rest : Int64) : Prop where
  reckoned : score.total - 10 - Reckoning.sum score.columns = rest
  exact : Reckoning.InRange (10 + Reckoning.exactSum score.columns + rest.toInt) →
    score.total.toInt - 10 - Reckoning.exactSum score.columns = rest.toInt

variable {score : DefenseScore}

theorem total_ofSources (sources : List (String × Int64)) :
    (ofSources sources).total = Reckoning.sum (ofSources sources).values := by
  rw [ofSources_eq, values]

theorem exceedsColumnsBy_of_eq {rest : Int64}
    (h : score.total = 10 + Reckoning.sum score.columns + rest) : score.ExceedsColumnsBy rest where
  reckoned := by
    rw [h]
    grind
  exact hrange := by
    have hwrapped : score.total =
        Int64.ofInt (10 + Reckoning.exactSum score.columns + rest.toInt) := by
      rw [h, Reckoning.sum_eq_ofInt, Int64.ofInt_add, Int64.ofInt_add, Int64.ofInt_toInt]
      rfl
    rw [hwrapped, Reckoning.toInt_ofInt hrange]
    omega

end DefenseScore

/-- Every score of a character. -/
def Defenses.scores : List (Defenses → DefenseScore) :=
  [fortitude, will, reflex, damageThreshold]

theorem Defenses.forall_mem_scores {P : (Defenses → DefenseScore) → Prop} :
    (∀ score ∈ scores, P score) ↔ P fortitude ∧ P will ∧ P reflex ∧ P damageThreshold := by
  simp [scores]

/-- What the condition track adds is added to every total, and to no column but the last. -/
theorem Defenses.total_adjust (defenses : Defenses) (condition : Int64) : ∀ score ∈ scores,
    (score (defenses.adjust (fun _ => 0) condition)).total = (score defenses).total + condition := by
  rw [forall_mem_scores]
  simp [adjust, DefenseScore.total_adjust, DefenseScore.raise]

theorem Defenses.columns_adjust (defenses : Defenses) (condition : Int64) : ∀ score ∈ scores,
    let adjusted := score (defenses.adjust (fun _ => 0) condition)
    adjusted.abilityBonus = (score defenses).abilityBonus ∧
      adjusted.armorBonus = (score defenses).armorBonus ∧
      adjusted.classBonus = (score defenses).classBonus :=
  forall_mem_scores.mpr ⟨⟨rfl, rfl, rfl⟩, ⟨rfl, rfl, rfl⟩, ⟨rfl, rfl, rfl⟩, ⟨rfl, rfl, rfl⟩⟩

namespace Actor

/-- The numbers under a key that the traits of a character have, added up. -/
def traitTotal (actor : Actor) (key : AttributeKey) : Int64 :=
  let numbers := (actor.items.filter (·.kind = .trait)).flatMap fun item =>
    item.attributes.filterMap fun a => if a.key = key then a.value.toNumber? else none
  Reckoning.sum numbers

theorem sumFromTraits_eq_traitTotal (actor : Actor) (key : AttributeKey) :
    actor.subject.contributions.sumFromTraits key = actor.traitTotal key := by
  have hnumbers : (Attribute.valuesOf key actor.subject.contributions.fromTraits).filterMap
      AttributeValue.toNumber? = (actor.items.filter (·.kind = .trait)).flatMap fun item =>
        item.attributes.filterMap fun a => if a.key = key then a.value.toNumber? else none := by
    simp only [Attribute.valuesOf, List.filterMap_map, List.filterMap_filter, beq_iff_eq,
      Subject.contributions, List.filterMap_flatMap]
    rfl
  rw [Contributions.sumFromTraits, Contributions.traitValues, AttributeValue.total, hnumbers,
    traitTotal]

/-! ## Sources -/

theorem total_eq_sum (actor : Actor) :
    ∀ score ∈ Defenses.scores,
      (score actor.defenses).total = Reckoning.sum (score actor.defenses).values :=
  Defenses.forall_mem_scores.mpr ⟨DefenseScore.total_ofSources _, DefenseScore.total_ofSources _,
    DefenseScore.total_ofSources _, DefenseScore.total_ofSources _⟩

theorem total_damageThreshold (actor : Actor) : actor.defenses.damageThreshold.total =
    actor.defenses.fortitude.total + actor.traitTotal .damageThresholdSizeModifier := by
  simp [defenses, DefenseScore.ofSources_eq, sumFromTraits_eq_traitTotal]

/-! ## Columns -/

theorem exceedsColumnsBy_fortitude (actor : Actor) :
    actor.defenses.fortitude.ExceedsColumnsBy 0 := by
  apply DefenseScore.exceedsColumnsBy_of_eq
  simp [defenses, fortitude, DefenseScore.ofSources_eq, DefenseScore.columns, baseDefense]
  grind

theorem exceedsColumnsBy_will (actor : Actor) :
    actor.defenses.will.ExceedsColumnsBy (Reckoning.ofLevel actor.characterLevel) := by
  apply DefenseScore.exceedsColumnsBy_of_eq
  simp [defenses, will, DefenseScore.ofSources_eq, DefenseScore.columns, baseDefense]
  grind

theorem exceedsColumnsBy_reflex (actor : Actor) :
    actor.defenses.reflex.ExceedsColumnsBy (actor.traitTotal .sizeModifier) := by
  apply DefenseScore.exceedsColumnsBy_of_eq
  simp [defenses, reflex, DefenseScore.ofSources_eq, DefenseScore.columns, baseDefense,
    sumFromTraits_eq_traitTotal]
  grind

/-! ## The condition track -/

/-- Another step on the condition track adds the difference of the penalties to every score. -/
theorem defenses_moved (actor : Actor) (step : TrackStep) :
    { actor with condition := step }.defenses =
      actor.defenses.adjust (fun _ => 0) (step.penalty - actor.condition.penalty) := by
  have h : { actor with condition := step }.Resembles actor :=
    ⟨rfl, rfl, rfl, .refl _, fun _ _ => .refl _, fun _ _ => .refl _⟩
  have htraits (defense : DefenseScope) :
      { actor with condition := step }.traitBonus defense = actor.traitBonus defense + 0 :=
    (Int64.add_zero _).symm
  have hcondition : step.penalty =
      actor.condition.penalty + (step.penalty - actor.condition.penalty) := by
    grind
  have hsituational : { actor with condition := step }.defenses.situational =
      actor.defenses.situational := rfl
  have harmors : { actor with condition := step }.defenses.armors = actor.defenses.armors := rfl
  rw [h.defenses_eq htraits hcondition, hsituational, harmors, Defenses.adjust]

/-- The total of every score is the sum of its sources. The damage threshold, which goes by two names in
a file, is Fortitude and what traits say of the size. Beyond ten and its columns, Fortitude has nothing,
Will the character level and Reflex what traits say of the size. On another step of the condition track
all totals differ by the difference of the penalties, and all else but the last column and the sources
is the same. -/
theorem breakdown_explains_total (actor : Actor) (step : TrackStep) :
    let before := actor.defenses
    let after := { actor with condition := step }.defenses
    (∀ score ∈ Defenses.scores, Reckoning.IsSumOf (score before).total (score before).values) ∧
      (before.damageThreshold.total =
          before.fortitude.total + actor.traitTotal .damageThresholdSizeModifier ∧
        ∃ defense armors, before.toJson = .object [("defense", .object defense), armors] ∧
          defense.lookup "dt" = some before.damageThreshold.toJson ∧
          defense.lookup "damageThreshold" = some before.damageThreshold.toJson) ∧
      (before.fortitude.ExceedsColumnsBy 0 ∧
        before.will.ExceedsColumnsBy (Reckoning.ofLevel actor.characterLevel) ∧
        before.reflex.ExceedsColumnsBy (actor.traitTotal .sizeModifier)) ∧
      (∀ score ∈ Defenses.scores,
        (score after).total =
            (score before).total + (step.penalty - actor.condition.penalty) ∧
          (score after).abilityBonus = (score before).abilityBonus ∧
          (score after).armorBonus = (score before).armorBonus ∧
          (score after).classBonus = (score before).classBonus) ∧
      after.damageReduction = before.damageReduction ∧
        after.situational = before.situational ∧ after.armors = before.armors := by
  intro before after
  have hmoved : after = before.adjust (fun _ => 0) (step.penalty - actor.condition.penalty) :=
    defenses_moved actor step
  refine ⟨fun score hscore => ?_, ⟨total_damageThreshold actor, _, _, rfl, rfl, rfl⟩,
    ⟨exceedsColumnsBy_fortitude actor, exceedsColumnsBy_will actor, exceedsColumnsBy_reflex actor⟩,
    ?_, ?_⟩
  · rw [total_eq_sum actor score hscore]
    exact Reckoning.isSumOf_sum _
  · rw [hmoved]
    intro score hscore
    exact ⟨before.total_adjust _ score hscore, before.columns_adjust _ score hscore⟩
  · rw [hmoved]
    exact ⟨rfl, rfl, rfl⟩

end Actor

end CharacterSheet
