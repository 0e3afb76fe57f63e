import CharacterSheet.Proofs.Contributions
import CharacterSheet.Proofs.Evaluation.Move
import Mathlib.Data.List.Nodup

/-!
# The order of items

A condition that asks for one item by its name takes the first, so the order of items matters where two
of them have kind and name in common. It does not matter otherwise (`Actor.report_reordered`): whatever
is counted or looked for among all items, and among the talents of a tree, is found in any order. Only
the diagnostics may come in another order, because the talents of a tree are asked in turn.

Reordered items are moved: the first of a kind and name goes to where the first of them now is, and
so on with the next of them.
-/

namespace CharacterSheet

/-- The items `as`, numbered by themselves, become the items `bs`. -/
theorem map_getElem?_idxOf {α : Type} [DecidableEq α] {as bs : List α} (nodup : as.Nodup)
    (hlength : as.length = bs.length) : as.map (fun a => bs[as.idxOf a]?.getD a) = bs := by
  apply List.ext_getElem
  · rw [List.length_map, hlength]
  · intro i hi hbound
    rw [List.getElem_map, nodup.idxOf_getElem, List.getElem?_eq_getElem hbound, Option.getD_some]

/-! ## Reordered items -/

/-- Whether an item has kind and name in common with another. -/
def Item.isNamesake (item other : Item) : Bool :=
  other.kind == item.kind && other.name == item.name

/-- The items are those of the first list in another order. Items that have kind and name in common keep
theirs among themselves. -/
structure Item.Reordered (items items' : List Item) : Prop where
  perm : items'.Perm items
  keeps : ∀ item ∈ items, items'.filter item.isNamesake = items.filter item.isNamesake

instance (items items' : List Item) : Decidable (Item.Reordered items items') :=
  decidable_of_iff (items'.Perm items ∧
      ∀ item ∈ items, items'.filter item.isNamesake = items.filter item.isNamesake)
    ⟨fun h => ⟨h.1, h.2⟩, fun h => ⟨h.perm, h.keeps⟩⟩

theorem Item.Reordered.filter_eq {items items' : List Item} (h : Item.Reordered items items')
    (kind : ItemKind) (name : String) :
    items'.filter (fun item => item.kind == kind && item.name == name) =
      items.filter (fun item => item.kind == kind && item.name == name) := by
  by_cases hsome : ∃ item ∈ items, item.kind = kind ∧ item.name = name
  · obtain ⟨item, hitem, rfl, rfl⟩ := hsome
    exact h.keeps item hitem
  · -- nobody goes by the name, before and after
    have hnone : ∀ item ∈ items, ¬(item.kind == kind && item.name == name) = true := by
      intro item hitem hname
      apply hsome
      rw [Bool.and_eq_true, beq_iff_eq, beq_iff_eq] at hname
      exact ⟨item, hitem, hname⟩
    rw [List.filter_eq_nil_iff.mpr hnone, List.filter_eq_nil_iff]
    intro item hitem
    exact hnone item (h.perm.mem_iff.mp hitem)

namespace Subject

variable {subject : Subject} {items : List Item} {o : OwnedItem}

theorem nodup_owned (subject : Subject) : subject.owned.Nodup := by
  apply List.Nodup.of_map OwnedItem.place
  have hplaces : subject.owned.map OwnedItem.place = List.range' 0 subject.items.length := by
    rw [owned, List.map_map, ← List.zipIdx_map_snd]
    rfl
  rw [hplaces]
  exact List.nodup_range'

theorem nodup_namesakes (subject : Subject) (kind : ItemKind) (name : String) :
    (subject.namesakes kind name).Nodup :=
  subject.nodup_owned.filter _

theorem map_item_namesakes (subject : Subject) (kind : ItemKind) (name : String) :
    (subject.namesakes kind name).map (·.item) =
      subject.items.filter (fun item => item.kind == kind && item.name == name) := by
  rw [← subject.map_item_owned, List.filter_map]
  rfl

/-! ## Where reordered items go -/

/-- Where an owned item stands among other items: as far behind its namesakes as before. -/
def counterpart (subject : Subject) (items : List Item) (o : OwnedItem) : OwnedItem :=
  let before := subject.namesakes o.item.kind o.item.name
  ((subject.withItems items).namesakes o.item.kind o.item.name)[before.idxOf o]?.getD o

section reordered

variable (h : Item.Reordered subject.items items)
include h

theorem map_item_namesakes_withItems (kind : ItemKind) (name : String) :
    ((subject.withItems items).namesakes kind name).map (·.item) =
      (subject.namesakes kind name).map (·.item) := by
  rw [map_item_namesakes, map_item_namesakes]
  exact h.filter_eq kind name

/-- The items of a kind and name go to those of the same kind and name, in their order. -/
theorem map_counterpart (kind : ItemKind) (name : String) :
    (subject.namesakes kind name).map (subject.counterpart items) =
      (subject.withItems items).namesakes kind name := by
  have hlength : (subject.namesakes kind name).length =
      ((subject.withItems items).namesakes kind name).length := by
    have := congrArg List.length (map_item_namesakes_withItems h kind name)
    simpa using this.symm
  refine Eq.trans (List.map_congr_left fun o ho => ?_)
    (map_getElem?_idxOf (subject.nodup_namesakes kind name) hlength)
  obtain ⟨-, rfl, rfl⟩ := mem_namesakes.mp ho
  rfl

theorem counterpart_mem_namesakes (ho : o ∈ subject.owned) :
    subject.counterpart items o ∈ (subject.withItems items).namesakes o.item.kind o.item.name := by
  rw [← map_counterpart h]
  exact List.mem_map_of_mem (mem_namesakes.mpr ⟨ho, rfl, rfl⟩)

theorem item_counterpart (ho : o ∈ subject.owned) : (subject.counterpart items o).item = o.item := by
  have hmap : ((subject.namesakes o.item.kind o.item.name).map (subject.counterpart items)).map
      (·.item) = (subject.namesakes o.item.kind o.item.name).map (·.item) := by
    rw [map_counterpart h, map_item_namesakes_withItems h]
  rw [List.map_map, List.map_inj_left] at hmap
  exact hmap o (mem_namesakes.mpr ⟨ho, rfl, rfl⟩)

/-- Two items with one counterpart have kind and name in common, and among namesakes no two have the same
counterpart. -/
theorem eq_of_counterpart_eq {p : OwnedItem} (ho : o ∈ subject.owned) (hp : p ∈ subject.owned)
    (heq : subject.counterpart items o = subject.counterpart items p) : o = p := by
  have hitem : o.item = p.item := by
    rw [← item_counterpart h ho, heq, item_counterpart h hp]
  have hnodup : ((subject.namesakes p.item.kind p.item.name).map
      (subject.counterpart items)).Nodup := by
    rw [map_counterpart h]
    exact nodup_namesakes _ _ _
  refine List.inj_on_of_nodup_map hnodup ?_ ?_ heq
  · exact mem_namesakes.mpr ⟨ho, by rw [hitem], by rw [hitem]⟩
  · exact mem_namesakes.mpr ⟨hp, rfl, rfl⟩

end reordered

end Subject

namespace Item.Reordered

variable {subject : Subject} {items : List Item} (h : Item.Reordered subject.items items)

/-- Reordered items are moved to their counterparts. -/
def move : Move subject (subject.withItems items) where
  target := subject.counterpart items
  owned_target ho := (Subject.mem_namesakes.mp (Subject.counterpart_mem_namesakes h ho)).1
  item_target ho := Subject.item_counterpart h ho
  eq_of_target ho hp := Subject.eq_of_counterpart_eq h ho hp

/-! ## What conditions see of the order -/

theorem namesakes_eq_map (kind : ItemKind) (name : String) :
    (subject.withItems items).namesakes kind name =
      (subject.namesakes kind name).map h.move.target :=
  (Subject.map_counterpart h kind name).symm

theorem perm_owned : (subject.withItems items).owned.Perm (subject.owned.map h.move.target) := by
  have hnodup : (subject.owned.map h.move.target).Nodup := by
    refine List.Nodup.map_on ?_ subject.nodup_owned
    intro o ho p hp heq
    exact h.move.eq_of_target ho hp heq
  rw [List.perm_ext_iff_of_nodup (Subject.nodup_owned _) hnodup]
  intro o
  constructor
  · intro ho
    have hnamed : o ∈ (subject.withItems items).namesakes o.item.kind o.item.name :=
      Subject.mem_namesakes.mpr ⟨ho, rfl, rfl⟩
    rw [h.namesakes_eq_map] at hnamed
    exact List.map_subset _ (List.filter_subset_self _) hnamed
  · intro ho
    obtain ⟨p, hp, rfl⟩ := List.mem_map.mp ho
    exact h.move.owned_target hp

/-- The talents of a tree are the same, in another order. -/
theorem perm_talentsOf (tree : String) : ((subject.withItems items).talentsOf tree).Perm
    ((subject.talentsOf tree).map h.move.target) := by
  have hfilter := h.perm_owned.filter fun o => o.item.kind == .talent && o.item.isInTree tree
  rw [List.filter_map] at hfilter
  have htalents : subject.owned.filter
      ((fun o => o.item.kind == .talent && o.item.isInTree tree) ∘ h.move.target) =
        subject.talentsOf tree := by
    refine List.filter_congr fun o ho => ?_
    rw [Function.comp_apply, h.move.item_target ho]
  rw [htalents] at hfilter
  exact hfilter

/-- As many of them stand, and they report the same problems in another order. -/
theorem matches_judgeTalent (recheck : Recheck) (text name : String) :
    ((subject.withItems items).judgeTalent recheck text name).Matches List.Perm
      (subject.judgeTalent (fun o => recheck (h.move.target o)) text name) := by
  simp only [Subject.judgeTalent, h.move.recheckFirst_eq recheck (h.namesakes_eq_map .talent name)]
  split
  · exact ⟨rfl, List.Perm.refl _⟩
  · have hverdicts : (((subject.withItems items).talentsOf name).map recheck).Perm
        ((subject.talentsOf name).map fun o => recheck (h.move.target o)) := by
      have := (h.perm_talentsOf name).map recheck
      rwa [List.map_map] at this
    refine ⟨congrArg (fun n => Outcome.ofCount text (.ofNat n)) (hverdicts.countP_eq _), ?_⟩
    exact (hverdicts.flatMap_right _).append_left _

include h

/-- Conditions see the same items, but for the order in which talents report problems. -/
theorem keepsView : h.move.KeepsView List.Perm where
  sum_eq := Contributions.sum_eq_of_perm (Subject.perm_all_contributions (List.Perm.refl _) h.perm)
  any_eq := Contributions.any_eq_of_perm (Subject.perm_all_contributions (List.Perm.refl _) h.perm)
  any_species _ := (h.perm.filter _).any_eq
  any_equipped _ := (h.perm.filter _).any_eq
  length_techniques := (h.perm.filter _).length_eq
  namesakes_eq _ := h.namesakes_eq_map _
  judgeTalent := h.matches_judgeTalent

theorem follows (condition : Condition) : condition.Follows List.Perm h.move :=
  h.keepsView.follows List.Perm.refl fun _ _ => (h.perm.filter _).any_eq

end Item.Reordered

/-! ## Reports -/

/-- Whatever the order of the items is, if items that have kind and name in common keep theirs, a report
has the same entries and the same credits, and its diagnostics are the same up to their order. -/
theorem Actor.report_reordered (actor : Actor) {items : List Item}
    (h : Item.Reordered actor.items items) (settings : Settings) (nodes : List Prerequisite) :
    let before := actor.subject.report settings nodes
    let after := { actor with items }.subject.report settings nodes
    after.isBlocked = before.isBlocked ∧ after.shortfalls = before.shortfalls ∧
      after.credits = before.credits ∧ after.diagnostics.Perm before.diagnostics := by
  have hmatches : ((actor.subject.withItems items).report settings nodes).Matches List.Perm
      (actor.subject.report settings nodes) := by
    have h : Item.Reordered actor.subject.items items := h
    refine h.move.matches_report ⟨List.Perm.refl, List.Perm.append⟩ List.Perm.trans ?_ settings ?_
    · intro item _ condition _
      exact h.follows condition
    · intro condition _
      exact h.follows condition
  exact ⟨hmatches.isBlocked, hmatches.shortfalls, hmatches.credits, hmatches.diagnostics⟩

/-- A character with two talents that require each other and one feat twice, of which the first asks
for more than anybody can tell. -/
def fencer : Actor where
  items := [
    { name := "Parry", kind := .talent, talentTree := some "Duels",
      prerequisites := [.leaf "Riposte" (.asset .talent "Riposte")] },
    { name := "Riposte", kind := .talent, bonusTalentTree := some "Duels",
      prerequisites := [.leaf "Parry" (.asset .talent "Parry")] },
    { name := "Calm", kind := .feat,
      prerequisites := [.leaf "a calm mind" (.special (.other "a calm mind"))] },
    { name := "Calm", kind := .feat }]

/-- The items of the fencer, with the second talent and the first of the two feats in front. -/
def fencerItems : List Item := [
  { name := "Riposte", kind := .talent, bonusTalentTree := some "Duels",
    prerequisites := [.leaf "Parry" (.asset .talent "Parry")] },
  { name := "Calm", kind := .feat,
    prerequisites := [.leaf "a calm mind" (.special (.other "a calm mind"))] },
  { name := "Parry", kind := .talent, talentTree := some "Duels",
    prerequisites := [.leaf "Riposte" (.asset .talent "Riposte")] },
  { name := "Calm", kind := .feat }]

theorem report_reordered_fencer :
    let nodes := [.leaf "Duels" (.asset .talent "Duels"), .leaf "Calm" (.asset .feat "Calm")]
    let before := fencer.subject.report {} nodes
    let after := { fencer with items := fencerItems }.subject.report {} nodes
    Item.Reordered fencer.items fencerItems ∧ after.shortfalls = before.shortfalls ∧
      after.diagnostics.Perm before.diagnostics ∧ after.diagnostics ≠ before.diagnostics := by
  have reordered : Item.Reordered fencer.items fencerItems := by decide
  obtain ⟨-, hshortfalls, -, hdiagnostics⟩ := fencer.report_reordered reordered {}
    [.leaf "Duels" (.asset .talent "Duels"), .leaf "Calm" (.asset .feat "Calm")]
  exact ⟨reordered, hshortfalls, hdiagnostics, by decide +kernel⟩

/-- With the other of the two feats in front, the fencer is calm. -/
example :
    let nodes := [.leaf "Calm" (.asset .feat "Calm")]
    (fencer.subject.report {} nodes).isBlocked = true ∧
      ({ fencer with items := fencer.items.reverse }.subject.report {} nodes).isBlocked = false := by
  decide +kernel

end CharacterSheet
