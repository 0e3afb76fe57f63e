import CharacterSheet.Actor
import CharacterSheet.Proofs.Item

/-!
# Sheets are read as they were written

A sheet that was read from a file, is written and is read again, is the same in every field
(`Actor.ofJson_toJson_of_ofJson`): an option is written as `null` or left out, a list that is empty is written or
left out, and either is read back as what it was. What would not come back is a combination without
nodes among the prerequisites of an item.
-/

namespace CharacterSheet

open Json

theorem TrackStep.ofJson_key (step : TrackStep) : ofJson (.string step.key) = .ok step := by
  cases step <;> rfl

theorem AbilityScores.ofJson_toJson (scores : AbilityScores) : ofJson scores.toJson = .ok scores := by
  have hfind := Record.find_members (show (scores.toJson.members.map Prod.fst).Nodup by
    simp [toJson, members, Ability.list, Ability.key])
  have hscore {place : Nat} {key : String} {n : Int64}
      (h : scores.toJson.members[place]? = some (key, .integer n.toInt)) :
      (Record.named scores.toJson.members).withDefault place [key] 10 asInt64 = .ok n :=
    Record.withDefault_of_find (hfind h) (asInt64_toInt n)
  rw [ofJson]
  refine bind_eq_of_eq_ok rfl ?_
  refine bind_eq_of_eq_ok (hscore rfl) ?_
  refine bind_eq_of_eq_ok (hscore rfl) ?_
  refine bind_eq_of_eq_ok (hscore rfl) ?_
  refine bind_eq_of_eq_ok (hscore rfl) ?_
  refine bind_eq_of_eq_ok (hscore rfl) ?_
  refine bind_eq_of_eq_ok (hscore rfl) ?_
  rfl

theorem Speed.ofJson_toJson (speed : Speed) : ofJson speed.toJson = .ok speed := by
  have hfind := Record.find_members (show (speed.toJson.members.map Prod.fst).Nodup by
    simp [toJson, members])
  rw [ofJson]
  refine bind_eq_of_eq_ok rfl ?_
  refine bind_eq_of_eq_ok (Record.required_of_find (hfind rfl) rfl) ?_
  refine bind_eq_of_eq_ok (Record.required_of_find (hfind rfl) (asUInt32_toNat speed.squares)) ?_
  rfl

namespace Actor

/-- A sheet is read as it was written if the prerequisites of its items are canonical. -/
theorem ofJson_toJson_of_canonicalList {actor : Actor}
    (h : ∀ item ∈ actor.items, Prerequisite.CanonicalList item.prerequisites) :
    ofJson actor.toJson = .ok actor := by
  have hfind := Record.find_members (show (actor.toJson.members.map Prod.fst).Nodup by
    simp [toJson, members])
  have htexts {texts : List String} {place : Nat} {key : String}
      (h : actor.toJson.members[place]? = some (key, Json.list .string texts)) :
      (Record.named actor.toJson.members).list place [key] asText = .ok texts :=
    Record.withDefault_of_find (hfind h) (asList_list fun _ _ => rfl)
  -- field by field, in the order of the record
  rw [ofJson]
  refine bind_eq_of_eq_ok rfl ?_
  refine bind_eq_of_eq_ok (Record.withDefault_of_find (hfind rfl) rfl) ?_
  refine bind_eq_of_eq_ok (Record.withDefault_of_find (hfind rfl)
    (asOption_nullable (fun _ => Json.noConfusion) asUInt32_toNat)) ?_
  refine bind_eq_of_eq_ok (Record.withDefault_of_find (hfind rfl)
    (asOption_nullable (fun _ => Json.noConfusion) fun _ => rfl)) ?_
  refine bind_eq_of_eq_ok
    (Record.withDefault_of_find (hfind rfl) (asUInt32_toNat actor.characterLevel)) ?_
  refine bind_eq_of_eq_ok
    (Record.withDefault_of_find (hfind rfl) (asUInt32_toNat actor.heroicLevel)) ?_
  refine bind_eq_of_eq_ok
    (Record.withDefault_of_find (hfind rfl) (asInt64_toInt actor.baseAttackBonus)) ?_
  refine bind_eq_of_eq_ok
    (Record.withDefault_of_find (hfind rfl) (asInt64_toInt actor.darkSideScore)) ?_
  refine bind_eq_of_eq_ok
    (Record.withDefault_of_find (hfind rfl) actor.abilities.ofJson_toJson) ?_
  refine bind_eq_of_eq_ok (htexts rfl) ?_
  refine bind_eq_of_eq_ok (htexts rfl) ?_
  refine bind_eq_of_eq_ok (htexts rfl) ?_
  refine bind_eq_of_eq_ok (Record.withDefault_of_find (hfind rfl)
    (asList_list fun item hitem => Item.ofJson_toJson (h item hitem))) ?_
  refine bind_eq_of_eq_ok (Record.withDefault_of_find (hfind rfl)
    (asList_list fun speed _ => speed.ofJson_toJson)) ?_
  refine bind_eq_of_eq_ok (Record.withDefault_of_find (hfind rfl) actor.condition.ofJson_key) ?_
  refine bind_eq_of_eq_ok (Record.withDefault_of_find (hfind rfl)
    (asList_list fun a _ => a.ofJson_toJson)) ?_
  refine bind_eq_of_eq_ok (Record.withDefault_of_find (hfind rfl) rfl) ?_
  rfl

/-- The prerequisites of the items on a sheet that was read were loaded from authored nodes. -/
theorem gives_ofJson (j : Json) : Gives (ofJson j) fun actor => ∀ item ∈ actor.items,
    ∃ authored, Prerequisite.loadList authored = .ok item.prerequisites := by
  rw [ofJson]
  refine .bind_any fun record => ?_
  iterate 11 refine .bind_any fun _ => ?_
  refine .bind (.list Item.gives_ofJson) fun items hloaded => ?_
  iterate 4 refine .bind_any fun _ => ?_
  exact .ok hloaded

/-- A sheet that was read is read again as it was written, with all that is on it, as long as no
combination among the prerequisites of its items is without nodes. -/
theorem ofJson_toJson_of_ofJson {j : Json} {actor : Actor} (h : ofJson j = .ok actor)
    (hfull : ∀ item ∈ actor.items, Prerequisite.IsFullList item.prerequisites) :
    ofJson actor.toJson = .ok actor := by
  refine ofJson_toJson_of_canonicalList fun item hitem => ?_
  obtain ⟨authored, hauthored⟩ := gives_ofJson j actor h item hitem
  exact Prerequisite.canonicalList_of_loadList hauthored (hfull item hitem)

/-- A feat as a file may have it: a single node stands for the list of prerequisites and goes by their
other name. -/
def carelessFeat : Json := .object [
  ("type", .string "feat"),
  ("name", .string "Vehicular Combat"),
  ("prerequisite",
    .object [("type", .string " character_level "), ("requirement", .integer 3)])]

/-- A suit of armor with its stats and one of its attributes given by place. -/
def carelessSuit : Json := .object [
  ("name", .string "Flight Suit"),
  ("type", .string "armor"),
  ("equipped", .bool true),
  ("armor", .array [.string "Light", .null]),
  ("attributes", .array [
    .object [("key", .string "isSealed"), ("value", .bool true)],
    .array [.string "fortitudeDefenseBonus", .integer 2]])]

/-- A sheet with fields that are left out, `null` and empty. -/
def carelessSheet : Json := .object [
  ("name", .string "Pilot"),
  ("age", .null),
  ("items", .array [carelessFeat, carelessSuit]),
  ("speed", .array [])]

/-- The character on that sheet. -/
def pilot : Actor where
  name := "Pilot"
  items := [
    { name := "Vehicular Combat", kind := .feat, prerequisites := [.leaf "" (.characterLevel 3)] },
    { name := "Flight Suit", kind := .armor, equipped := true, armor := some { type := .light },
      attributes := [⟨"isSealed", .flag true⟩, ⟨.fortitudeDefenseBonus, .number 2⟩] }]
  speed := []

theorem ofJson_toJson_of_ofJson_pilot :
    ofJson carelessSheet = .ok pilot ∧
      (∀ item ∈ pilot.items, Prerequisite.IsFullList item.prerequisites) ∧
      ofJson pilot.toJson = .ok pilot := by
  have hnode : AuthoredNode.ofJsonOneOrMany
      (.object [("type", .string " character_level "), ("requirement", .integer 3)]) =
        .ok [{ tag := some " character_level ", requirement := some (.integer 3) }] := by
    rw [AuthoredNode.ofJsonOneOrMany, AuthoredNode.ofJson_eq]
    rfl
  have hfeat : Item.ofJson carelessFeat = .ok
      { name := "Vehicular Combat", kind := .feat,
        prerequisites := [.leaf "" (.characterLevel 3)] } := by
    rw [Item.ofJson]
    iterate 4 refine bind_eq_of_eq_ok rfl ?_
    refine bind_eq_of_eq_ok
      (Record.withDefault_of_find rfl (bind_eq_of_eq_ok hnode rfl)) ?_
    rfl
  have hread : ofJson carelessSheet = .ok pilot := by
    rw [ofJson]
    iterate 12 refine bind_eq_of_eq_ok rfl ?_
    refine bind_eq_of_eq_ok (Record.withDefault_of_find rfl (bind_eq_of_eq_ok hfeat rfl)) ?_
    rfl
  have hfull : ∀ item ∈ pilot.items, Prerequisite.IsFullList item.prerequisites :=
    List.forall_mem_cons.mpr ⟨⟨trivial, trivial⟩, List.forall_mem_singleton.mpr trivial⟩
  exact ⟨hread, hfull, ofJson_toJson_of_ofJson hread hfull⟩

end Actor

end CharacterSheet
