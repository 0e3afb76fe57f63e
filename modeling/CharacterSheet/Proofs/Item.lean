import CharacterSheet.Item
import CharacterSheet.Proofs.Json.Record
import CharacterSheet.Proofs.Prerequisite.RoundTrip

/-!
# Items are read as they were written

An item that is written and read again is the same, with its attributes, its armor stats and its trees,
as long as its prerequisites are canonical (`Item.ofJson_toJson`). Those of an item that was read are,
if all combinations among them have nodes: whatever the file holds, an item has prerequisites that were
loaded (`Item.gives_ofJson`).
-/

namespace CharacterSheet

open Json

/-! ## Names -/

theorem ItemKind.ofJson_key (kind : ItemKind) : ofJson (.string kind.key) = .ok kind := by
  cases kind <;> rfl

theorem DefenseScope.ofJson_key (scope : DefenseScope) : ofJson (.string scope.key) = .ok scope := by
  cases scope <;> rfl

theorem ArmorType.ofJson_title (type : ArmorType) : ofJson (.string type.title) = .ok type := by
  cases type <;> rfl

/-! ## Attributes -/

namespace DefenseBonus

/-- The fields of a bonus as they are written. -/
def fields (bonus : DefenseBonus) : List (String × Option Json) := [
  ("defense", some (.string bonus.defense.key)),
  ("bonus", some (.integer bonus.bonus.toInt)),
  ("modifier", bonus.situation.map .string)]

theorem toJson_eq_present (bonus : DefenseBonus) : bonus.toJson = .object (present bonus.fields) := by
  rw [toJson, member?_eq_present]
  rfl

theorem ofJson_toJson (bonus : DefenseBonus) : ofJson bonus.toJson = .ok bonus := by
  have hfind := Record.find_present (show (bonus.fields.map Prod.fst).Nodup by simp [fields])
  rw [toJson_eq_present, ofJson]
  refine bind_eq_of_eq_ok rfl ?_
  refine bind_eq_of_eq_ok (Record.required_of_find (hfind rfl) bonus.defense.ofJson_key) ?_
  refine bind_eq_of_eq_ok (Record.required_of_find (hfind rfl) (asInt64_toInt bonus.bonus)) ?_
  refine bind_eq_of_eq_ok
    (Record.optional_of_find (hfind rfl) (fun _ => Json.noConfusion) fun _ => rfl) ?_
  rfl

end DefenseBonus

/-- A flag, a number, a bonus and a text are told apart by their form. -/
theorem AttributeValue.ofJson_toJson (value : AttributeValue) : ofJson value.toJson = .ok value := by
  cases value with
  | flag b => rfl
  | number n =>
    rw [toJson, ofJson, asInt64_toInt]
    rfl
  | defenseBonus bonus =>
    show (DefenseBonus.ofJson bonus.toJson).map defenseBonus = _
    rw [bonus.ofJson_toJson]
    rfl
  | text s => rfl

theorem Attribute.ofJson_toJson (a : Attribute) : ofJson a.toJson = .ok a := by
  have hfind := Record.find_members (show (a.toJson.members.map Prod.fst).Nodup by
    simp [toJson, members])
  rw [ofJson]
  refine bind_eq_of_eq_ok rfl ?_
  refine bind_eq_of_eq_ok (Record.required_of_find (hfind rfl) rfl) ?_
  refine bind_eq_of_eq_ok (Record.required_of_find (hfind rfl) a.value.ofJson_toJson) ?_
  rfl

/-! ## Armor -/

theorem ArmorStats.ofJson_toJson (stats : ArmorStats) : ofJson stats.toJson = .ok stats := by
  have hfind := Record.find_members (show (stats.toJson.members.map Prod.fst).Nodup by
    simp [toJson, members])
  have hbonus {bonus : Option Int64} :
      asOption asInt64 (nullable (fun n => .integer n.toInt) bonus) = .ok bonus :=
    asOption_nullable (fun _ => Json.noConfusion) asInt64_toInt
  rw [ofJson]
  refine bind_eq_of_eq_ok rfl ?_
  refine bind_eq_of_eq_ok (Record.required_of_find (hfind rfl) stats.type.ofJson_title) ?_
  refine bind_eq_of_eq_ok (Record.withDefault_of_find (hfind rfl) hbonus) ?_
  refine bind_eq_of_eq_ok (Record.withDefault_of_find (hfind rfl) hbonus) ?_
  refine bind_eq_of_eq_ok (Record.withDefault_of_find (hfind rfl) hbonus) ?_
  refine bind_eq_of_eq_ok
    (Record.withDefault_of_find (hfind rfl) (asList_list fun _ _ => rfl)) ?_
  rfl

/-! ## Prerequisites -/

namespace Prerequisite

/-- A list of canonical nodes is read as it was written. -/
theorem listOfJson_list {nodes : List Prerequisite} (h : CanonicalList nodes) :
    listOfJson (Json.list toJson nodes) = .ok nodes := by
  obtain ⟨read, hread, hload⟩ := exists_ofJsonOneOrMany_list (saveList nodes)
  rw [listToJson_saveList]
  refine bind_eq_of_eq_ok hread ?_
  rw [hload, loadList_saveList h]
  rfl

theorem eq_ok_of_decoded {α : Type} {x : Loaded α} {a : α} (h : decoded x = .ok a) : x = .ok a := by
  cases x with
  | error fault => cases h
  | ok b =>
    cases h
    rfl

/-- Whatever is read was loaded from authored nodes. -/
theorem gives_listOfJson (j : Json) :
    Gives (listOfJson j) fun nodes => ∃ authored, loadList authored = .ok nodes := by
  cases j with
  | null => exact .ok ⟨[], rfl⟩
  | _ => exact .bind_any fun authored _ h => ⟨authored, eq_ok_of_decoded h⟩

end Prerequisite

/-! ## Items -/

namespace Item

/-- The fields of an item as they are written. -/
def fields (item : Item) : List (String × Option Json) := [
  ("name", some (.string item.name)),
  ("type", some (.string item.kind.key)),
  ("equipped", some (.bool item.equipped)),
  ("prerequisites", list? Prerequisite.toJson item.prerequisites),
  ("attributes", list? Attribute.toJson item.attributes),
  ("talentTree", item.talentTree.map .string),
  ("bonusTalentTree", item.bonusTalentTree.map .string),
  ("armor", item.armor.map ArmorStats.toJson)]

theorem toJson_eq_present (item : Item) : item.toJson = .object (present item.fields) := by
  rw [toJson]
  simp only [member?_eq_present, members?_eq_present, singleton_eq_present, ← present_cons,
    ← present_append]
  rfl

theorem ofJson_toJson {item : Item} (h : Prerequisite.CanonicalList item.prerequisites) :
    ofJson item.toJson = .ok item := by
  have hfind := Record.find_present (show (item.fields.map Prod.fst).Nodup by simp [fields])
  -- the one field that goes by two names, of which the other is never written
  have hprerequisites : (Record.named (present item.fields)).find 3
      ["prerequisites", "prerequisite"] = .ok (list? Prerequisite.toJson item.prerequisites) :=
    Record.find_present_of_filter_eq "prerequisites" (by simp [fields])
  have htree {tree : Option String} {place : Nat} {key : String}
      (h : item.fields[place]? = some (key, tree.map .string)) :
      (Record.named (present item.fields)).optional place [key] asText = .ok tree :=
    Record.optional_of_find (hfind h) (fun _ => Json.noConfusion) fun _ => rfl
  rw [toJson_eq_present, ofJson]
  refine bind_eq_of_eq_ok rfl ?_
  refine bind_eq_of_eq_ok (Record.required_of_find (hfind rfl) rfl) ?_
  refine bind_eq_of_eq_ok (Record.required_of_find (hfind rfl) item.kind.ofJson_key) ?_
  refine bind_eq_of_eq_ok (Record.withDefault_of_find (hfind rfl) rfl) ?_
  refine bind_eq_of_eq_ok
    (Record.withDefault_nil_of_find hprerequisites (Prerequisite.listOfJson_list h)) ?_
  refine bind_eq_of_eq_ok (Record.withDefault_nil_of_find (hfind rfl)
    (asList_list fun a _ => a.ofJson_toJson)) ?_
  refine bind_eq_of_eq_ok (htree rfl) ?_
  refine bind_eq_of_eq_ok (htree rfl) ?_
  refine bind_eq_of_eq_ok (Record.optional_of_find (hfind rfl) (fun _ => Json.noConfusion)
    ArmorStats.ofJson_toJson) ?_
  rfl

/-- The prerequisites of an item that was read were loaded from authored nodes. -/
theorem gives_ofJson (j : Json) :
    Gives (ofJson j) fun item => ∃ authored, Prerequisite.loadList authored = .ok item.prerequisites := by
  rw [ofJson]
  refine .bind_any fun record => .bind_any fun name => .bind_any fun kind => .bind_any fun equipped => ?_
  refine .bind (.withDefault ⟨[], rfl⟩ Prerequisite.gives_listOfJson) fun prerequisites hloaded => ?_
  refine .bind_any fun attributes => .bind_any fun tree => .bind_any fun bonusTree =>
    .bind_any fun armor => ?_
  exact .ok hloaded

end Item

end CharacterSheet
