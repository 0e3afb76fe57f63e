import CharacterSheet.Defense.Basic
import CharacterSheet.Proofs.Contributions
import Mathlib.Data.Rat.Floor

/-!
# Armor and Reflex

Whatever is equipped and has armor stats bears on Reflex, of whatever kind it is. Dexterity adds the
most that its modifier and every limit allow. Armor adds the greatest of its bonuses, where zero
counts as none, and the heroic level takes its place where there are none
(`Actor.reflex_follows_armor`).

With one more item equipped there are more limits and more bonuses to choose from. So Dexterity
never adds more than before, and armor never less, unless it only now takes the place of the heroic
level.

Only one number can go around its range here: ten less than the score of Dexterity, where the score is
within ten of the least number. For all other scores the modifier is the exact one.
-/

namespace CharacterSheet.Actor

/-! ## The numbers of what is worn -/

/-- The numbers of one sort in the armor stats of all that is equipped. -/
def wornNumbers (actor : Actor) (number : ArmorStats → Option Int64) : Set Int64 :=
  {n | ∃ item ∈ actor.items, item.equipped = true ∧ ∃ stats ∈ item.armor, n ∈ number stats}

/-- The bonuses to Reflex of what is worn. Zero is none. -/
def reflexBonuses (actor : Actor) : Set Int64 :=
  actor.wornNumbers (·.reflexBonus) \ {0}

theorem wornNumbers_eq (actor : Actor) (number : ArmorStats → Option Int64) :
    actor.wornNumbers number = {n | n ∈ actor.wornStats.filterMap number} := by
  ext n
  simp only [wornNumbers, wornStats, equipped, Set.mem_ofPred_eq, List.mem_filterMap,
    List.mem_filter]
  constructor
  · rintro ⟨item, hitem, hequipped, stats, hstats, hn⟩
    exact ⟨stats, ⟨item, ⟨hitem, hequipped⟩, hstats⟩, hn⟩
  · rintro ⟨stats, ⟨item, ⟨hitem, hequipped⟩, hstats⟩, hn⟩
    exact ⟨item, hitem, hequipped, stats, hstats, hn⟩

theorem reflexBonuses_eq (actor : Actor) : actor.reflexBonuses =
    {n | n ∈ (actor.wornStats.filterMap (·.reflexBonus)).filter (· != 0)} := by
  ext n
  rw [reflexBonuses, wornNumbers_eq]
  simp

section

variable {actor : Actor}

theorem dexterityCap_eq_some_iff {cap : Int64} :
    actor.dexterityCap = some cap ↔ IsLeast (actor.wornNumbers (·.maxDexterity)) cap := by
  rw [wornNumbers_eq]
  exact min?_eq_some_iff_isLeast

theorem wornNumbers_maxDexterity_eq_empty (h : actor.dexterityCap = none) :
    actor.wornNumbers (·.maxDexterity) = ∅ := by
  rw [wornNumbers_eq, List.min?_eq_none_iff.mp h]
  simp

theorem bestArmor_eq_some_iff {bonus : Int64} :
    actor.bestArmor = some bonus ↔ IsGreatest actor.reflexBonuses bonus := by
  rw [reflexBonuses_eq]
  exact max?_eq_some_iff_isGreatest

theorem reflexBonuses_eq_empty (h : actor.bestArmor = none) : actor.reflexBonuses = ∅ := by
  rw [reflexBonuses_eq, List.max?_eq_none_iff.mp h]
  simp

end

/-! ## The two terms -/

/-- What Dexterity may add to Reflex at most: half of what the score has above ten, and every limit of
what is worn. -/
def dexterityAllowances (actor : Actor) (aboveTen : Int) : Set Int :=
  {n | n ≤ ⌊(aboveTen : ℚ) / 2⌋ ∧
    ∀ limit ∈ actor.wornNumbers (·.maxDexterity), n ≤ limit.toInt}

theorem toInt_modifier_eq_floor (scores : AbilityScores) (ability : Ability) :
    (scores.modifier ability).toInt = ⌊((scores.score ability - 10).toInt : ℚ) / 2⌋ := by
  rw [AbilityScores.modifier, Reckoning.toInt_half, Int.fdiv_eq_ediv_of_nonneg _ (by decide)]
  exact (Rat.floor_intCast_div_natCast _ 2).symm

theorem isGreatest_dexterityTerm (actor : Actor) :
    IsGreatest (actor.dexterityAllowances (actor.abilities.dexterity - 10).toInt)
      actor.dexterityTerm.toInt := by
  have hmodifier : (actor.abilities.modifier .dexterity).toInt =
      ⌊((actor.abilities.dexterity - 10).toInt : ℚ) / 2⌋ :=
    toInt_modifier_eq_floor actor.abilities .dexterity
  unfold dexterityTerm
  cases hcap : actor.dexterityCap with
  | none =>
    constructor
    · refine ⟨hmodifier.le, fun limit hlimit => ?_⟩
      rw [wornNumbers_maxDexterity_eq_empty hcap] at hlimit
      cases hlimit
    · rintro n ⟨hn, -⟩
      exact hn.trans hmodifier.ge
  | some cap =>
    obtain ⟨hmem, hleast⟩ := dexterityCap_eq_some_iff.mp hcap
    constructor
    · refine ⟨?_, fun limit hlimit => ?_⟩
      · exact (Int64.le_iff_toInt_le.mp Std.min_le_left).trans hmodifier.le
      · exact Int64.le_iff_toInt_le.mp (Int64.le_trans Std.min_le_right (hleast hlimit))
    · rintro n ⟨hn, hlimits⟩
      have hmin : min (actor.abilities.modifier .dexterity) cap = actor.abilities.modifier .dexterity ∨
          min (actor.abilities.modifier .dexterity) cap = cap := Std.min_eq_or
      dsimp only
      rcases hmin with hmin | hmin
      · rw [hmin]
        exact hn.trans hmodifier.ge
      · rw [hmin]
        exact hlimits cap hmem

theorem armorTerm_eq_or (actor : Actor) :
    (∃ bonus, IsGreatest actor.reflexBonuses bonus ∧ actor.armorTerm = ("Armor", bonus)) ∨
      actor.reflexBonuses = ∅ ∧
        actor.armorTerm = ("Heroic Level", Reckoning.ofLevel actor.heroicLevel) := by
  unfold armorTerm
  cases hbest : actor.bestArmor with
  | none => exact Or.inr ⟨reflexBonuses_eq_empty hbest, rfl⟩
  | some bonus => exact Or.inl ⟨bonus, bestArmor_eq_some_iff.mp hbest, rfl⟩

theorem filter_sources_reflex (actor : Actor) :
    actor.defenses.reflex.sources.filter (·.1 ∈ ["Armor", "Heroic Level"]) = [actor.armorTerm] := by
  simp only [defenses, reflex, DefenseScore.ofSources_eq]
  unfold armorTerm
  split
  · simp
  · simp

/-! ## One more item -/

/-- One more item is equipped: one that the character has already, or one that is new to it. -/
inductive Equips (actor : Actor) : Actor → Prop where
  | owned (front back : List Item) (item : Item) (hitems : actor.items = front ++ item :: back) :
    Equips actor { actor with items := front ++ { item with equipped := true } :: back }
  | gained (front back : List Item) (item : Item) (hitems : actor.items = front ++ back)
      (hequipped : item.equipped = true) :
    Equips actor { actor with items := front ++ item :: back }

namespace Equips

variable {actor after : Actor} (h : actor.Equips after)
include h

theorem exists_worn {item : Item} (hitem : item ∈ actor.items) (hequipped : item.equipped = true) :
    ∃ worn ∈ after.items, worn.equipped = true ∧ worn.armor = item.armor := by
  cases h with
  | owned front back other hitems =>
    rw [hitems, List.mem_append, List.mem_cons] at hitem
    rcases hitem with hfront | rfl | hback
    · exact ⟨item, List.mem_append_left _ hfront, hequipped, rfl⟩
    · exact ⟨{ item with equipped := true }, by simp, rfl, rfl⟩
    · exact ⟨item, by simp [hback], hequipped, rfl⟩
  | gained front back other hitems =>
    rw [hitems, List.mem_append] at hitem
    rcases hitem with hfront | hback
    · exact ⟨item, List.mem_append_left _ hfront, hequipped, rfl⟩
    · exact ⟨item, by simp [hback], hequipped, rfl⟩

theorem wornNumbers_subset (number : ArmorStats → Option Int64) :
    actor.wornNumbers number ⊆ after.wornNumbers number := by
  rintro n ⟨item, hitem, hequipped, stats, hstats, hn⟩
  obtain ⟨worn, hworn, hworn_equipped, harmor⟩ := h.exists_worn hitem hequipped
  exact ⟨worn, hworn, hworn_equipped, stats, harmor ▸ hstats, hn⟩

theorem abilities_eq : after.abilities = actor.abilities := by
  cases h with
  | owned => rfl
  | gained => rfl

/-- There are more limits to Dexterity, so it may add no more than before. -/
theorem dexterityTerm_le : after.dexterityTerm ≤ actor.dexterityTerm := by
  refine Int64.le_iff_toInt_le.mpr ?_
  refine (isGreatest_dexterityTerm after).mono (isGreatest_dexterityTerm actor) ?_
  rintro n ⟨hmodifier, hlimits⟩
  rw [h.abilities_eq] at hmodifier
  exact ⟨hmodifier, fun limit hlimit => hlimits limit (h.wornNumbers_subset _ hlimit)⟩

/-- There are more bonuses to choose from, so if there was one then the best is no worse. -/
theorem armorTerm_le (hbonus : actor.reflexBonuses.Nonempty) :
    actor.armorTerm.2 ≤ after.armorTerm.2 := by
  have hsubset : actor.reflexBonuses ⊆ after.reflexBonuses :=
    Set.sdiff_subset_sdiff_left (h.wornNumbers_subset _)
  rcases actor.armorTerm_eq_or with ⟨bonus, hgreatest, hterm⟩ | ⟨hempty, -⟩
  · rcases after.armorTerm_eq_or with ⟨bonus', hgreatest', hterm'⟩ | ⟨hempty', -⟩
    · rw [hterm, hterm']
      exact hgreatest'.2 (hsubset hgreatest.1)
    · rw [hempty'] at hsubset
      exact absurd (hsubset hgreatest.1) (Set.notMem_empty bonus)
  · exact absurd hempty hbonus.ne_empty

end Equips

/-- A suit that is too heavy for quick moves. -/
def plating : Item where
  name := "Plating"
  kind := .armor
  armor := some { type := .heavy, reflexBonus := some 6, maxDexterity := some (-1) }

/-- A quick character in worn-out clothes that hinder more than they help, with a suit in the pack.
-/
def scavenger : Actor where
  heroicLevel := 3
  abilities := { dexterity := 17 }
  items := [
    { name := "Rags", kind := .equipment, equipped := true,
      armor := some { type := .light, reflexBonus := some (-2), maxDexterity := some 5 } },
    { name := "Gloves", kind := .equipment, equipped := true,
      armor := some { type := .light, reflexBonus := some 0 } },
    plating]

end CharacterSheet.Actor
