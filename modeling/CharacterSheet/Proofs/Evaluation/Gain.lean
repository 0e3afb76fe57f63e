import CharacterSheet.Proofs.Evaluation.Asking
import CharacterSheet.Proofs.Evaluation.Counting
import CharacterSheet.Proofs.Evaluation.Pass
import Mathlib.Data.List.Basic

/-!
# Who gains something falls short of nothing new

A subject gains what raises a level, adds to what it is trained in or proficient with, or comes behind
its other items and brings no attributes. All conditions compare what the subject has with a least
bound, and reports get better with what they are made of, so a report that passes still does.

There is one exception. A talent that is asked for by the name of a tree counts all talents of the tree,
unless a talent goes by that name itself: once this one stands, it counts one. Where a node asks for two
or more of its children, the talent must not take the place of several (`Subject.KeepsTallies`). And
what counts more must not leave the range of counts (`Subject.CountsFit`).
-/

namespace CharacterSheet

/-! ## Counted talents -/

/-- The name of the talent that a condition asks for, where more than one counts for more. -/
def Condition.tallied (bound : Nat) : Condition → List String
  | .asset .talent name => if 1 < bound then [name] else []
  | _ => []

namespace Prerequisite

mutual

/-- The names by which talents are asked for and counted, in a node that counts as far as `bound`. -/
def tallied (bound : Nat) : Prerequisite → List String
  | leaf _ condition => condition.tallied bound
  | all _ children => talliedList 0 children
  | any _ count children => talliedList count.toNat children

/-- The names by which talents are asked for and counted, in nodes that count as far as `bound`. -/
def talliedList (bound : Nat) : List Prerequisite → List String
  | [] => []
  | node :: rest => tallied bound node ++ talliedList bound rest

end

theorem mem_talliedList {bound : Nat} {name : String} {nodes : List Prerequisite} :
    name ∈ talliedList bound nodes ↔ ∃ node ∈ nodes, name ∈ node.tallied bound := by
  induction nodes with
  | nil => simp [talliedList]
  | cons node rest ih => simp [talliedList, ih]

end Prerequisite

namespace Subject

/-- The names by which talents are counted for a list of nodes or for an owned item. -/
def tallied (subject : Subject) (nodes : List Prerequisite) : List String :=
  Prerequisite.talliedList 0 nodes ++
    subject.items.flatMap fun item => Prerequisite.talliedList 0 item.prerequisites

/-- Where a talent of the second subject goes by one of these names, at most one talent of the first
belongs to a tree of that name. -/
def KeepsTallies (subject subject' : Subject) (names : List String) : Prop :=
  ∀ talent ∈ subject'.items, talent.kind = .talent →
    talent.name ∈ names → (subject.talentsOf talent.name).length ≤ 1

instance (subject subject' : Subject) (names : List String) :
    Decidable (subject.KeepsTallies subject' names) :=
  inferInstanceAs (Decidable (∀ talent ∈ subject'.items, talent.kind = .talent →
    talent.name ∈ names → (subject.talentsOf talent.name).length ≤ 1))

theorem KeepsTallies.mono {subject subject' : Subject} {names fewer : List String}
    (h : subject.KeepsTallies subject' names) (hfewer : fewer ⊆ names) :
    subject.KeepsTallies subject' fewer :=
  fun talent htalent hkind hname => h talent htalent hkind (hfewer hname)

/-! ## Gains -/

/-- The second subject has all that the first has, and perhaps more. -/
structure GainsTo (subject subject' : Subject) : Prop where
  attributes : subject'.attributes = subject.attributes
  items : ∃ gained, subject'.items = subject.items ++ gained ∧ ∀ item ∈ gained, item.attributes = []
  age : subject'.age = subject.age
  characterLevel : subject.characterLevel ≤ subject'.characterLevel
  baseAttackBonus : subject.baseAttackBonus ≤ subject'.baseAttackBonus
  darkSideScore : subject.darkSideScore ≤ subject'.darkSideScore
  sex : subject'.sex = subject.sex
  weaponProficiencies : subject.weaponProficiencies ⊆ subject'.weaponProficiencies
  armorProficiencies : subject.armorProficiencies ⊆ subject'.armorProficiencies
  trainedSkills : subject.trainedSkills ⊆ subject'.trainedSkills
  abilities : subject'.abilities = subject.abilities

variable {subject subject' : Subject} {recheck recheck' : Recheck} {bound : Nat}

theorem GainsTo.refl (subject : Subject) : subject.GainsTo subject where
  attributes := rfl
  items := ⟨[], (List.append_nil _).symm, by simp⟩
  age := rfl
  characterLevel := UInt32.le_refl _
  baseAttackBonus := Int64.le_refl _
  darkSideScore := Int64.le_refl _
  sex := rfl
  weaponProficiencies := List.Subset.refl _
  armorProficiencies := List.Subset.refl _
  trainedSkills := List.Subset.refl _
  abilities := rfl

section gain

variable (gain : subject.GainsTo subject')
include gain

theorem GainsTo.items_prefix : subject.items <+: subject'.items := by
  obtain ⟨gained, hitems, -⟩ := gain.items
  exact ⟨gained, hitems.symm⟩

/-- What is gained stands behind the other items, so that all of them keep their places. -/
theorem GainsTo.owned_prefix : subject.owned <+: subject'.owned := by
  obtain ⟨gained, hitems, -⟩ := gain.items
  rw [owned, owned, hitems, List.zipIdx_append, List.map_append]
  exact List.prefix_append _ _

theorem GainsTo.contributions_eq : subject'.contributions = subject.contributions := by
  obtain ⟨gained, hitems, hplain⟩ := gain.items
  have hnone : ∀ p : Item → Bool, (gained.filter p).flatMap (·.attributes) = [] := fun p =>
    List.flatMap_eq_nil_iff.mpr fun item hitem => hplain item (List.mem_filter.mp hitem).1
  simp [contributions, itemsOf, hitems, hnone, gain.attributes]

theorem GainsTo.value_threshold_eq (c : Contributions) (least : Threshold) :
    least.value subject' c = least.value subject c := by
  cases least with
  | abilityScore ability => simp [Threshold.value, scoreOf, gain.abilities]
  | _ => rfl

end gain

/-- What is found in a list is found in a longer one. -/
theorem any_of_subset {α : Type} {as bs : List α} {p : α → Bool} (h : as ⊆ bs)
    (hany : as.any p = true) : bs.any p = true := by
  obtain ⟨a, ha, hp⟩ := List.any_eq_true.mp hany
  exact List.any_eq_true.mpr ⟨a, h ha, hp⟩

/-! ## What stands still stands -/

/-- Of items that are asked in turn one stands if one of them does. -/
theorem stands_recheckAny_iff {os : List OwnedItem} :
    (recheckAny recheck os).stands = true ↔ ∃ o ∈ os, (recheck o).stands = true := by
  induction os with
  | nil => simp [recheckAny]
  | cons o rest ih =>
    rw [recheckAny, List.exists_mem_cons_iff]
    split
    · next hstands => exact ⟨fun _ => Or.inl hstands, fun _ => hstands⟩
    · next hstands => exact ih.trans (or_iff_right hstands).symm

section stands

variable (gain : subject.GainsTo subject')
  (more : ∀ o ∈ subject.owned, (recheck o).stands = true → (recheck' o).stands = true)
include gain more

theorem GainsTo.stands_recheckFirst {kind : ItemKind} {name : String}
    (h : (subject.recheckFirst recheck kind name).stands = true) :
    (subject'.recheckFirst recheck' kind name).stands = true := by
  unfold recheckFirst at h ⊢
  cases hfind : subject.owned.find? fun o => o.item.kind == kind && o.item.name == name with
  | none =>
    rw [hfind] at h
    cases h
  | some o =>
    rw [hfind] at h
    rw [gain.owned_prefix.find?_eq_some hfind]
    exact more o (List.mem_of_find?_eq_some hfind) h

theorem GainsTo.stands_recheckTrait {name : String}
    (h : (subject.recheckTrait recheck name).stands = true) :
    (subject'.recheckTrait recheck' name).stands = true := by
  obtain ⟨o, ho, hstands⟩ := stands_recheckAny_iff.mp h
  refine stands_recheckAny_iff.mpr ⟨o, ?_, more o (List.mem_filter.mp ho).1 hstands⟩
  exact (gain.owned_prefix.filter _).subset ho

/-- No fewer talents of a tree stand than before. -/
theorem GainsTo.countP_talentsOf_le (tree : String) :
    ((subject.talentsOf tree).map recheck).countP (·.stands) ≤
      ((subject'.talentsOf tree).map recheck').countP (·.stands) := by
  rw [List.countP_map, List.countP_map]
  have hstill := List.countP_mono_left fun o (ho : o ∈ subject.talentsOf tree) hstands =>
    more o (List.mem_filter.mp ho).1 hstands
  exact Nat.le_trans hstill (gain.owned_prefix.filter _).sublist.countP_le

end stands

/-- Where a talent stands for the name of a tree, as much as counts of the tree is one talent. -/
theorem KeepsTallies.min_le_one {name : String}
    (tallies : subject.KeepsTallies subject' (Condition.tallied bound (.asset .talent name)))
    (hname : (subject'.recheckFirst recheck' .talent name).stands = true) :
    min bound (((subject.talentsOf name).map recheck).countP (·.stands)) ≤ 1 := by
  by_cases hbound : 1 < bound
  · rcases subject'.recheckFirst_eq .talent name with ⟨o, ho, hkind, rfl, -⟩ | heq
    · have hasks : o.item.name ∈ Condition.tallied bound (.asset .talent o.item.name) := by
        simp [Condition.tallied, hbound]
      have hone := tallies o.item (item_mem_of_mem_owned ho) hkind hasks
      refine Nat.le_trans (Nat.min_le_right _ _) (Nat.le_trans List.countP_le_length ?_)
      rwa [List.length_map]
    · rw [heq] at hname
      cases hname
  · exact Nat.le_trans (Nat.min_le_left _ _) (Nat.le_of_not_lt hbound)

/-! ## Leaves -/

/-- A talent is still met and counts no less. -/
theorem GainsTo.improvesTo_judgeTalent (gain : subject.GainsTo subject') (node : Prerequisite)
    (text name : String) (fits : (subject'.talentsOf name).length < UInt32.size)
    (tallies : subject.KeepsTallies subject' (Condition.tallied bound (.asset .talent name)))
    (more : ∀ o ∈ subject.owned, (recheck o).stands = true → (recheck' o).stands = true) :
    Report.ImprovesTo bound (Report.leaf node (subject.judgeTalent recheck text name))
      (Report.leaf node (subject'.judgeTalent recheck' text name)) := by
  by_cases hname : (subject.recheckFirst recheck .talent name).stands = true
  · have hname' := gain.stands_recheckFirst more hname
    rw [judgeTalent, judgeTalent, if_pos hname, if_pos hname']
    exact Report.improvesTo_leaf_met rfl rfl (Nat.min_le_right _ _)
  rw [judgeTalent, if_neg hname]
  let before := ((subject.talentsOf name).map recheck).countP (·.stands)
  have hbefore : (UInt32.ofNat before).toNat ≤ before := by
    rw [UInt32.toNat_ofNat']
    exact Nat.mod_le _ _
  by_cases hcount : 0 < UInt32.ofNat before
  · rw [judgeTalent]
    split
    · next hname' =>
      -- the name was that of the tree and is now that of a talent
      have hone : min bound before ≤ 1 := tallies.min_le_one hname'
      have hle : min bound (UInt32.ofNat before).toNat ≤ 1 := by omega
      exact Report.improvesTo_leaf_met (if_pos hcount) rfl hle
    · let after := ((subject'.talentsOf name).map recheck').countP (·.stands)
      have hmore : before ≤ after := gain.countP_talentsOf_le more name
      have hafter : (UInt32.ofNat after).toNat = after := by
        refine UInt32.toNat_ofNat_of_lt' (Nat.lt_of_le_of_lt List.countP_le_length ?_)
        rwa [List.length_map]
      have hle : (UInt32.ofNat before).toNat ≤ (UInt32.ofNat after).toNat := by omega
      have hpos : 0 < UInt32.ofNat after := UInt32.lt_of_lt_of_le hcount (UInt32.le_iff_toNat_le.mpr hle)
      exact Report.improvesTo_leaf_met (if_pos hcount) (if_pos hpos)
        (Nat.le_trans (Nat.min_le_right _ _) hle)
  · exact Report.improvesTo_leaf_blocking (if_neg hcount) _ _

/-- Every condition is still met that was, and counts no less. -/
theorem GainsTo.improvesTo_leaf (gain : subject.GainsTo subject') (c : Contributions)
    (node : Prerequisite) (text : String) (condition : Condition)
    (fits : (Prerequisite.leaf text condition).most subject' < UInt32.size)
    (tallies : subject.KeepsTallies subject' (condition.tallied bound))
    (more : ∀ o ∈ subject.owned, (recheck o).stands = true → (recheck' o).stands = true) :
    Report.ImprovesTo bound (Report.leaf node (condition.judge subject c recheck text))
      (Report.leaf node (condition.judge subject' c recheck' text)) := by
  cases condition with
  | age low high =>
    rw [Condition.judge, Condition.judge, gain.age]
    exact Report.ImprovesTo.refl _ _
  | characterLevel least =>
    refine Report.improvesTo_leaf_ofBool rfl rfl fun h => decide_eq_true ?_
    exact UInt32.le_trans (of_decide_eq_true h) gain.characterLevel
  | baseAttackBonus least =>
    refine Report.improvesTo_leaf_ofBool rfl rfl fun h => decide_eq_true ?_
    exact Int64.le_trans (of_decide_eq_true h) gain.baseAttackBonus
  | darkSideScore least =>
    refine Report.improvesTo_leaf_ofBool rfl rfl fun h => decide_eq_true ?_
    rw [gain.value_threshold_eq]
    exact Int64.le_trans (of_decide_eq_true h) gain.darkSideScore
  | asset kind name =>
    cases kind with
    | item | species | equipped =>
      exact Report.improvesTo_leaf_ofBool rfl rfl
        (any_of_subset (gain.items_prefix.filter _).subset)
    | trainedSkill => exact Report.improvesTo_leaf_ofBool rfl rfl (any_of_subset gain.trainedSkills)
    | proficiency =>
      refine Report.improvesTo_leaf_ofBool rfl rfl (any_of_subset ?_)
      exact List.append_subset.mpr
        ⟨List.subset_append_of_subset_left _ gain.weaponProficiencies,
          List.subset_append_of_subset_right _ gain.armorProficiencies⟩
    | gender =>
      rw [Condition.judge, Condition.judge, Asset.judge, Asset.judge, gain.sex]
      exact Report.ImprovesTo.refl _ _
    | feat | heroicClass | tradition | technique =>
      exact Report.improvesTo_leaf_ofBool rfl rfl (gain.stands_recheckFirst more)
    | trait => exact Report.improvesTo_leaf_ofBool rfl rfl (gain.stands_recheckTrait more)
    | talent =>
      have fits := Nat.lt_of_le_of_lt (Nat.le_max_right _ _) fits
      exact gain.improvesTo_judgeTalent node text name fits tallies more
  | techniqueCount least =>
    refine Report.improvesTo_leaf_ofBool rfl rfl fun h => decide_eq_true ?_
    exact Nat.le_trans (of_decide_eq_true h) (gain.items_prefix.filter _).length_le
  | _ => exact Report.ImprovesTo.refl _ _

/-! ## Runs -/

/-- An owned item stands where what it asks for passes as before. -/
theorem stands_recheck_mono {judgeNodes judgeNodes' : List OwnedItem → List Prerequisite → Report}
    {busy : List OwnedItem} {o : OwnedItem}
    (more : (judgeNodes (busy ++ [o]) o.item.prerequisites).passes = true →
      (judgeNodes' (busy ++ [o]) o.item.prerequisites).passes = true)
    (h : (o.recheck judgeNodes busy).stands = true) :
    (o.recheck judgeNodes' busy).stands = true := by
  rcases o.recheck_eq busy with heq | ⟨-, heq⟩ | ⟨-, -, heq⟩
  · rw [heq]
  · rw [heq] at h
    cases h
  · rw [heq] at h ⊢
    exact more h

/-- With the same items busy and the same room, the report on a node only gets better. -/
theorem GainsTo.improvesTo_judge (gain : subject.GainsTo subject')
    (owned : subject.KeepsTallies subject' (subject.tallied [])) (fitting : subject'.CountsFit [])
    (c : Contributions) (maxDepth room : Nat) (busy : List OwnedItem) (bound : Nat)
    (node : Prerequisite) (fits : ∀ n ∈ node.largestCounts subject', n < UInt32.size)
    (tallies : subject.KeepsTallies subject' (node.tallied bound)) :
    Report.ImprovesTo bound (subject.judge c maxDepth room busy node)
      (subject'.judge c maxDepth room busy node) := by
  induction room generalizing busy bound node with
  | zero =>
    simp only [judge_zero]
    exact Report.ImprovesTo.refl _ _
  | succ room ih =>
    have nested : ∀ busy bound nodes,
        (∀ n ∈ Prerequisite.largestCountsOf subject' nodes, n < UInt32.size) →
        subject.KeepsTallies subject' (Prerequisite.talliedList bound nodes) →
        Report.ImprovesTo bound (subject.judgeList c maxDepth room busy nodes)
          (subject'.judgeList c maxDepth room busy nodes) := by
      intro busy bound nodes fits tallies
      refine Report.improvesTo_join_map fun child hchild => ih busy bound child ?_ ?_
      · exact fun n hn => fits n (Prerequisite.mem_largestCountsOf.mpr ⟨child, hchild, hn⟩)
      · exact tallies.mono fun name hname =>
          Prerequisite.mem_talliedList.mpr ⟨child, hchild, hname⟩
    cases node with
    | leaf text condition =>
      simp only [judge_leaf]
      refine gain.improvesTo_leaf c _ text condition (fits _ List.mem_cons_self) tallies
        fun o ho => stands_recheck_mono ?_
      -- what an owned item asks for is judged with less room, for the subject that owns it
      have hitem : o.item ∈ subject.items := item_mem_of_mem_owned ho
      refine (nested _ 0 o.item.prerequisites ?_ (owned.mono fun name hname => ?_)).passes
      · exact fitting.of_item (gain.items_prefix.subset hitem)
      · exact List.mem_flatMap.mpr ⟨o.item, hitem, hname⟩
    | all text children =>
      simp only [judge_all]
      exact (nested busy 0 children fits tallies).all _ _
    | any text count children =>
      simp only [judge_any]
      obtain ⟨htogether, hchildren⟩ := List.forall_mem_cons.mp fits
      refine (nested busy count.toNat children hchildren tallies).any ?_ _ _
      exact Nat.lt_of_le_of_lt (Report.tally_join_map_le (tally_judge_le _ _ _ _ _) children) htogether

theorem GainsTo.improvesTo_report (gain : subject.GainsTo subject') (settings : Settings)
    (nodes : List Prerequisite) (fits : subject'.CountsFit nodes)
    (tallies : subject.KeepsTallies subject' (subject.tallied nodes)) :
    Report.ImprovesTo 0 (subject.report settings nodes) (subject'.report settings nodes) := by
  rw [report_eq_judgeList, report_eq_judgeList, gain.contributions_eq]
  have owned : subject.KeepsTallies subject' (subject.tallied []) :=
    tallies.mono (List.subset_append_right _ _)
  have fitting : subject'.CountsFit [] := fun n hn => fits n (List.mem_append_right _ hn)
  refine Report.improvesTo_join_map fun node hnode =>
    gain.improvesTo_judge owned fitting _ _ _ _ _ _ (fits.of_node hnode) ?_
  refine tallies.mono fun name hname => List.mem_append_left _ ?_
  exact Prerequisite.mem_talliedList.mpr ⟨node, hnode, hname⟩

end Subject

/-! ## Gains of an actor -/

namespace Actor

/-- What an actor may become by gaining one thing. -/
inductive Gain (actor : Actor) : Actor → Prop
  | characterLevel {level : UInt32} (h : actor.characterLevel ≤ level) :
    Gain actor { actor with characterLevel := level }
  | baseAttackBonus {bonus : Int64} (h : actor.baseAttackBonus ≤ bonus) :
    Gain actor { actor with baseAttackBonus := bonus }
  | darkSideScore {score : Int64} (h : actor.darkSideScore ≤ score) :
    Gain actor { actor with darkSideScore := score }
  | trainedSkills {skills : List String} (h : actor.trainedSkills ⊆ skills) :
    Gain actor { actor with trainedSkills := skills }
  | weaponProficiencies {groups : List String} (h : actor.weaponProficiencies ⊆ groups) :
    Gain actor { actor with weaponProficiencies := groups }
  | armorProficiencies {groups : List String} (h : actor.armorProficiencies ⊆ groups) :
    Gain actor { actor with armorProficiencies := groups }
  /-- an item that brings no attributes, behind all others -/
  | item {item : Item} (h : item.attributes = []) : Gain actor (actor.addItem item)

theorem Gain.gainsTo {actor actor' : Actor} (gain : actor.Gain actor') :
    actor.subject.GainsTo actor'.subject := by
  have refl := Subject.GainsTo.refl actor.subject
  cases gain with
  | characterLevel h => exact { refl with characterLevel := h }
  | baseAttackBonus h => exact { refl with baseAttackBonus := h }
  | darkSideScore h => exact { refl with darkSideScore := h }
  | trainedSkills h => exact { refl with trainedSkills := h }
  | weaponProficiencies h => exact { refl with weaponProficiencies := h }
  | armorProficiencies h => exact { refl with armorProficiencies := h }
  | item h => exact { refl with items := ⟨[_], rfl, List.forall_mem_singleton.mpr h⟩ }

/-- Gaining something never disqualifies, unless a talent takes the place of a tree that counts more, or
talents are so many that their count leaves its range. -/
theorem passes_of_gain {actor actor' : Actor} (gain : actor.Gain actor') (settings : Settings)
    (nodes : List Prerequisite) (fits : actor'.subject.CountsFit nodes)
    (tallies : actor.subject.KeepsTallies actor'.subject (actor.subject.tallied nodes))
    (h : (actor.subject.report settings nodes).passes = true) :
    (actor'.subject.report settings nodes).passes = true :=
  (gain.gainsTo.improvesTo_report settings nodes fits tallies).passes h

/-- Two talents of a tree, one of which asks for the other. -/
def specialist : Actor where
  items := [
    { name := "Armored Defense", kind := .talent, talentTree := some "Armor Specialist" },
    { name := "Improved Armored Defense", kind := .talent, talentTree := some "Armor Specialist"
      prerequisites := [.leaf "Armored Defense" (.asset .talent "Armored Defense")] }]

/-- Two talents of a tree. -/
def twoOfTree : List Prerequisite :=
  [.any "two Armor Specialist talents" 2
    [.leaf "Armor Specialist" (.asset .talent "Armor Specialist")]]

/-- A talent that goes by the name of the tree. -/
def namesake : Item := { name := "Armor Specialist", kind := .talent }

/-- A third talent of the tree, even. -/
def third : Item :=
  { name := "Juggernaut", kind := .talent, talentTree := some "Armor Specialist" }

theorem passes_of_gain_third :
    (specialist.addItem third).subject.CountsFit twoOfTree ∧
      specialist.subject.KeepsTallies (specialist.addItem third).subject
        (specialist.subject.tallied twoOfTree) ∧
      (specialist.subject.report {} twoOfTree).passes = true ∧
      ((specialist.addItem third).subject.report {} twoOfTree).passes = true := by
  have fits : (specialist.addItem third).subject.CountsFit twoOfTree := by decide
  have tallies : specialist.subject.KeepsTallies (specialist.addItem third).subject
      (specialist.subject.tallied twoOfTree) := by decide
  have passes : (specialist.subject.report {} twoOfTree).passes = true := by decide +kernel
  exact ⟨fits, tallies, passes, passes_of_gain (.item rfl) {} twoOfTree fits tallies passes⟩

/-! ### Too many talents -/

/-- A character with many talents of the tree, all alike. -/
def crowd (n : Nat) : Actor where
  items := List.replicate n third

/-- A talent of the tree. -/
def ofTree : Prerequisite :=
  .leaf "Armor Specialist" (.asset .talent "Armor Specialist")

theorem crowd_addItem (n : Nat) : (crowd n).addItem third = crowd (n + 1) := by
  simp only [addItem, crowd, List.replicate_succ']

theorem item_eq_third {n : Nat} {o : OwnedItem} (h : o ∈ (crowd n).subject.owned) :
    o.item = third :=
  List.eq_of_mem_replicate (Subject.item_mem_of_mem_owned h)

/-- Each of them stands, and none goes by the name of the tree. -/
theorem judgeTalent_crowd (n : Nat) {recheck : Recheck}
    (h : ∀ o, o.item = third → recheck o = ⟨true, []⟩) (text : String) :
    (crowd n).subject.judgeTalent recheck text "Armor Specialist" =
      ⟨.ofCount text (.ofNat n), []⟩ := by
  have hnone : (crowd n).subject.recheckFirst recheck .talent "Armor Specialist" = ⟨false, []⟩ := by
    have hfind : ((crowd n).subject.owned.find? fun o =>
        o.item.kind == .talent && o.item.name == "Armor Specialist") = none := by
      refine List.find?_eq_none.mpr fun o ho => ?_
      rw [item_eq_third ho]
      decide
    rw [Subject.recheckFirst, hfind]
  have hall : (crowd n).subject.talentsOf "Armor Specialist" = (crowd n).subject.owned := by
    refine List.filter_eq_self.mpr fun o ho => ?_
    rw [item_eq_third ho]
    decide
  have hverdicts : (crowd n).subject.owned.map recheck = List.replicate n ⟨true, []⟩ := by
    refine List.eq_replicate_iff.mpr ⟨?_, fun verdict hverdict => ?_⟩
    · simp [Subject.owned, subject, crowd]
    · obtain ⟨o, ho, rfl⟩ := List.mem_map.mp hverdict
      exact h o (item_eq_third ho)
  simp [Subject.judgeTalent, hnone, hall, hverdicts, List.countP_replicate]

theorem judge_ofTree_crowd {n : Nat} (hpos : 0 < n) (hn : n < UInt32.size) (c : Contributions)
    (maxDepth room : Nat) (busy : List OwnedItem) :
    (crowd n).subject.judge c maxDepth (room + 1) busy ofTree =
      { credits := [⟨ofTree, .ofNat n⟩] } := by
  have hcount : (UInt32.ofNat n).toNat = n := UInt32.toNat_ofNat_of_lt' hn
  have hmet : Outcome.ofCount "Armor Specialist" (.ofNat n) = .met (.ofNat n) :=
    if_pos (UInt32.lt_iff_toNat_lt.mpr (hcount.symm ▸ hpos))
  rw [ofTree, Subject.judge_leaf]
  simp only [Condition.judge, Asset.judge]
  rw [judgeTalent_crowd n (fun o ho => by rw [OwnedItem.recheck, ho]; rfl), hmet]
  rfl

/-- Asked for one talent of the tree, over and over, a crowd passes if the counts do not come to zero
together, in 32 bits. -/
theorem passes_crowd_iff {n : Nat} (hpos : 0 < n) (hn : n < UInt32.size) (m : Nat) :
    ((crowd n).subject.report {} [.any "any of them" 1 (List.replicate m ofTree)]).passes = true ↔
      1 ≤ UInt32.ofNat (m * n) := by
  have hchildren : ∀ c maxDepth room busy,
      (crowd n).subject.judgeList c maxDepth (room + 1) busy (List.replicate m ofTree) =
        { credits := List.replicate m ⟨ofTree, .ofNat n⟩ } := by
    intro c maxDepth room busy
    rw [Subject.judgeList, List.map_replicate, judge_ofTree_crowd hpos hn]
    simp [Report.join, List.flatMap_replicate]
  have hcount : ({ credits := List.replicate m ⟨ofTree, .ofNat n⟩ } : Report).count =
      .ofNat (m * n) := by
    rw [Report.count, List.map_replicate, Reckoning.total_eq_ofNat, Reckoning.exactTotal_replicate,
      UInt32.toNat_ofNat_of_lt' hn]
  rw [Subject.report_eq_judgeList, Subject.judgeList, List.map_singleton, Report.join_singleton,
    Subject.judge_any, show (Settings.maxDepth {}).toNat = 63 + 1 from rfl, hchildren,
    Report.passes_iff]
  by_cases hle : 1 ≤ UInt32.ofNat (m * n)
  · exact iff_of_true (Report.isBlocked_any_of_le (hcount.symm ▸ hle)) hle
  · refine iff_of_false ?_ hle
    rw [Report.isBlocked_any_of_not_le (hcount.symm ▸ hle)]
    simp

/-! ### What is lost -/

/-- With a talent that goes by the name of the tree, but asks for more than is there. -/
def apprentice : Actor :=
  specialist.addItem { namesake with prerequisites := [.leaf "level 3" (.characterLevel 3)] }

/-- What a gain can cost. A talent that goes by the name of the tree counts one, be it new or one that a
level lets stand. And one talent too many turns the count of them all to zero. -/
theorem passes_lost_by_gain :
    (specialist.Gain (specialist.addItem namesake) ∧
      (specialist.subject.report {} twoOfTree).passes = true ∧
      ((specialist.addItem namesake).subject.report {} twoOfTree).passes = false) ∧
    (apprentice.Gain { apprentice with characterLevel := 3 } ∧
      (apprentice.subject.report {} twoOfTree).passes = true ∧
      ({ apprentice with characterLevel := 3 }.subject.report {} twoOfTree).passes = false) ∧
    (crowd 65535).Gain ((crowd 65535).addItem third) ∧
      ((crowd 65535).subject.report {}
        [.any "any of them" 1 (List.replicate 65536 ofTree)]).passes = true ∧
      (((crowd 65535).addItem third).subject.report {}
        [.any "any of them" 1 (List.replicate 65536 ofTree)]).passes = false := by
  have levels : apprentice.Gain { apprentice with characterLevel := 3 } :=
    .characterLevel (by decide)
  refine ⟨⟨.item rfl, by decide +kernel, by decide +kernel⟩,
    ⟨levels, by decide +kernel, by decide +kernel⟩, .item rfl,
    (passes_crowd_iff (by decide) (by decide) _).mpr (by decide), ?_⟩
  rw [crowd_addItem, ← Bool.not_eq_true, passes_crowd_iff (by decide) (by decide)]
  decide

end Actor

end CharacterSheet
