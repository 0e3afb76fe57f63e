import CharacterSheet.Defense.Basic
import CharacterSheet.Proofs.Evaluation.Move

/-!
# Gear that is stowed

Gear that is carried and not equipped is stowed. It has no effect but to be there: the defenses of a
character do not see it, and no prerequisite does but one that asks for gear of its name
(`Actor.stowed_is_inert`). Nothing about a stowed piece changes that, neither its armor stats nor its
attributes, and least of all its prerequisites, which nobody ever asks for.

All that is read of items passes a filter that stowed gear does not pass. The places of the other items
do change when a piece is put between them, so a judgement is compared with one whose items were moved.
-/

namespace CharacterSheet

/-! ## Elements put in between -/

/-- The third list is the second one with the elements of the first put in between, wherever that is. -/
inductive Inserted {α : Type} : (added as bs : List α) → Prop where
  | nil : Inserted [] [] []
  | keep (a : α) {added as bs : List α} (rest : Inserted added as bs) :
      Inserted added (a :: as) (a :: bs)
  | add (a : α) {added as bs : List α} (rest : Inserted added as bs) :
      Inserted (a :: added) as (a :: bs)

namespace Inserted

variable {α β : Type} {added as bs : List α}

theorem subset (h : Inserted added as bs) : as ⊆ bs := by
  induction h with
  | nil => exact List.nil_subset _
  | keep a _ ih => exact List.cons_subset_cons a ih
  | add a _ ih => exact List.subset_cons_of_subset a ih

theorem map (f : α → β) (h : Inserted added as bs) :
    Inserted (added.map f) (as.map f) (bs.map f) := by
  induction h with
  | nil => exact .nil
  | keep a _ ih => exact .keep (f a) ih
  | add a _ ih => exact .add (f a) ih

/-- What none of the added elements passes does not let them be seen. -/
theorem filter_eq (h : Inserted added as bs) {p : α → Bool} (hadded : ∀ a ∈ added, p a = false) :
    bs.filter p = as.filter p := by
  induction h with
  | nil => rfl
  | keep a _ ih => rw [List.filter_cons, List.filter_cons, ih hadded]
  | add a _ ih =>
    obtain ⟨ha, hrest⟩ := List.forall_mem_cons.mp hadded
    rw [List.filter_cons, ha, ih hrest]
    rfl

theorem any_eq (h : Inserted added as bs) {p : α → Bool} (hadded : ∀ a ∈ added, p a = false) :
    bs.any p = as.any p := by
  induction h with
  | nil => rfl
  | keep a _ ih => rw [List.any_cons, List.any_cons, ih hadded]
  | add a _ ih =>
    obtain ⟨ha, hrest⟩ := List.forall_mem_cons.mp hadded
    rw [List.any_cons, ha, ih hrest, Bool.false_or]

/-- The elements keep apart at their new places. -/
theorem exists_zipIdx (h : Inserted added as bs) :
    ∃ place : Nat → Nat, Function.Injective place ∧ ∃ numbered : List (α × Nat),
      numbered.map Prod.fst = added ∧
        Inserted numbered (as.zipIdx.map fun a => (a.1, place a.2)) bs.zipIdx := by
  induction h with
  | nil => exact ⟨id, Function.injective_id, [], rfl, .nil⟩
  | keep a _ ih =>
    obtain ⟨place, hinjective, numbered, rfl, hinserted⟩ := ih
    have hnext := hinserted.map (Prod.map id (· + 1))
    -- the first element stays in front, and those behind it are one further on than among themselves
    refine ⟨fun i => Nat.casesOn i 0 fun i => place i + 1, ?_, numbered.map (Prod.map id (· + 1)),
      by simp, ?_⟩
    · intro i j hij
      cases i <;> cases j
      · rfl
      · cases hij
      · cases hij
      · exact congrArg Nat.succ (hinjective (Nat.succ.inj hij))
    · rw [List.zipIdx_cons', List.zipIdx_cons', List.map_cons]
      rw [List.map_map] at hnext ⊢
      exact .keep (a, 0) hnext
  | add a _ ih =>
    obtain ⟨place, hinjective, numbered, rfl, hinserted⟩ := ih
    have hnext := hinserted.map (Prod.map id (· + 1))
    refine ⟨fun i => place i + 1, fun i j hij => hinjective (Nat.succ.inj hij),
      (a, 0) :: numbered.map (Prod.map id (· + 1)), by simp, ?_⟩
    rw [List.zipIdx_cons']
    rw [List.map_map] at hnext
    exact .add (a, 0) hnext

end Inserted

/-! ## Stowed gear -/

/-- The item is gear and not equipped. -/
def Item.IsStowed (item : Item) : Prop :=
  item.kind.isCarried = true ∧ item.equipped = false
  deriving Decidable

namespace Item.IsStowed

variable {piece : Item} (h : piece.IsStowed)
include h

theorem isActive_eq : piece.isActive = false := by
  rw [isActive_of_isCarried h.1, h.2]

theorem kind_beq {kind : ItemKind} (hkind : kind.isCarried = false) : (piece.kind == kind) = false := by
  rw [beq_eq_false_iff_ne]
  rintro rfl
  rw [h.1] at hkind
  cases hkind

end Item.IsStowed

namespace Subject

variable {subject : Subject} {stowed items : List Item}
  (hinserted : Inserted stowed subject.items items)

/-! ## Seen by conditions -/

section inserted

include hinserted

/-- Gear of a name is found as before unless added gear goes by it. -/
theorem any_inventory_withItems {name : String} (hname : ∀ piece ∈ stowed, piece.name ≠ name) :
    (subject.withItems items).inventory.any (·.name == name) =
      subject.inventory.any (·.name == name) := by
  rw [inventory, inventory, List.any_filter, List.any_filter]
  exact hinserted.any_eq fun piece hpiece => by simp [hname piece hpiece]

/-- The items move to their new places, and are all that is seen there by what the added ones do not
pass. -/
theorem exists_move : ∃ move : Move subject (subject.withItems items),
    ∀ p : Item → Bool, (∀ piece ∈ stowed, p piece = false) →
      (subject.withItems items).owned.filter (fun o => p o.item) =
        (subject.owned.filter fun o => p o.item).map move.target := by
  obtain ⟨place, hinjective, numbered, hnumbered, hplaces⟩ := hinserted.exists_zipIdx
  let target : OwnedItem → OwnedItem := fun o => ⟨o.item, place o.place⟩
  have howned : Inserted (numbered.map fun a => ⟨a.1, a.2⟩) (subject.owned.map target)
      (subject.withItems items).owned := by
    have := hplaces.map fun a => OwnedItem.mk a.1 a.2
    rw [List.map_map] at this
    rw [owned, owned, List.map_map]
    exact this
  refine ⟨⟨target, ?_, ?_, ?_⟩, ?_⟩
  · exact fun ho => howned.subset (List.mem_map_of_mem ho)
  · exact fun _ => rfl
  · rintro ⟨item, i⟩ ⟨other, j⟩ - - heq
    obtain ⟨hitem, hplace⟩ := OwnedItem.mk.inj heq
    obtain rfl : item = other := hitem
    obtain rfl : i = j := hinjective hplace
    rfl
  · intro p hp
    have hadded : ∀ o ∈ numbered.map fun a => OwnedItem.mk a.1 a.2, p o.item = false := by
      intro o ho
      obtain ⟨a, ha, rfl⟩ := List.mem_map.mp ho
      exact hp a.1 (hnumbered ▸ List.mem_map_of_mem ha)
    rw [howned.filter_eq hadded, List.filter_map]
    rfl

end inserted

section stowed

variable (hstowed : ∀ piece ∈ stowed, piece.IsStowed)
include hinserted hstowed

theorem itemsOf_withItems {kind : ItemKind} (hkind : kind.isCarried = false) :
    (subject.withItems items).itemsOf kind = subject.itemsOf kind :=
  hinserted.filter_eq fun piece hpiece => (hstowed piece hpiece).kind_beq hkind

theorem equipped_withItems : (subject.withItems items).equipped = subject.equipped :=
  hinserted.filter_eq fun piece hpiece => (hstowed piece hpiece).2

theorem contributions_withItems :
    (subject.withItems items).contributions = subject.contributions := by
  have hactive : items.filter (·.isActive) = subject.items.filter (·.isActive) :=
    hinserted.filter_eq fun piece hpiece => (hstowed piece hpiece).isActive_eq
  have htraits : (subject.withItems items).itemsOf .trait = subject.itemsOf .trait :=
    itemsOf_withItems hinserted hstowed rfl
  rw [contributions, contributions, htraits]
  simp only [withItems, hactive]

/-- The items that are not stowed look the same from their new places. -/
theorem exists_keepsView : ∃ move : Move subject (subject.withItems items), move.KeepsView Eq := by
  obtain ⟨move, hmove⟩ := exists_move hinserted
  have hkind : ∀ {kind : ItemKind}, kind.isCarried = false → ∀ p : Item → Bool,
      (subject.withItems items).owned.filter (fun o => o.item.kind == kind && p o.item) =
        (subject.owned.filter fun o => o.item.kind == kind && p o.item).map move.target := by
    intro kind hcarried p
    refine hmove (fun item => item.kind == kind && p item) fun piece hpiece => ?_
    rw [(hstowed piece hpiece).kind_beq hcarried, Bool.false_and]
  have hnamesakes : ∀ {kind : ItemKind}, kind.isCarried = false → ∀ name,
      (subject.withItems items).namesakes kind name =
        (subject.namesakes kind name).map move.target :=
    fun hcarried name => hkind hcarried fun item => item.name == name
  have htalents : ∀ tree, (subject.withItems items).talentsOf tree =
      (subject.talentsOf tree).map move.target :=
    fun tree => hkind rfl fun item => item.isInTree tree
  have hcontributions := contributions_withItems hinserted hstowed
  refine ⟨move, fun _ => by rw [hcontributions], fun _ => by rw [hcontributions], ?_, ?_, ?_,
    hnamesakes, ?_⟩
  · exact fun _ => by rw [itemsOf_withItems hinserted hstowed rfl]
  · exact fun _ => by rw [equipped_withItems hinserted hstowed]
  · rw [itemsOf_withItems hinserted hstowed rfl]
  · intro recheck text name
    have hnamed : (subject.withItems items).namesakes .talent name =
        (subject.namesakes .talent name).map move.target := hnamesakes rfl name
    simp only [judgeTalent, move.recheckFirst_eq recheck hnamed, htalents, List.map_map]
    exact ⟨rfl, rfl⟩

end stowed

end Subject

/-! ## Seen by nobody -/

namespace Actor

variable {actor : Actor} {stowed items : List Item}

/-- Defenses are worked out of what the items contribute and of those that are equipped. -/
theorem defenses_withItems
    (hcontributions : { actor with items }.subject.contributions = actor.subject.contributions)
    (hequipped : { actor with items }.equipped = actor.equipped) :
    { actor with items }.defenses = actor.defenses := by
  have hworn : { actor with items }.wornStats = actor.wornStats := by
    rw [wornStats, wornStats, hequipped]
  have hlines : { actor with items }.armorLines = actor.armorLines := by
    rw [armorLines, armorLines, hequipped]
    rfl
  have hreflex : ∀ c, { actor with items }.reflex c = actor.reflex c := by
    intro c
    simp only [reflex, armorTerm, bestArmor, dexterityTerm, dexterityCap, hworn]
  simp only [defenses, hcontributions, hreflex, hlines]
  rfl

/-- Gear that is put between the items of a character and not equipped leaves the defenses as they are,
and it leaves every report as it is, with all entries, credits and diagnostics, unless a node that is
judged, or one of an item that was there before, asks for gear of its name. -/
theorem stowed_is_inert (actor : Actor) {stowed items : List Item}
    (hinserted : Inserted stowed actor.items items)
    (hstowed : ∀ piece ∈ stowed, piece.IsStowed) :
    { actor with items }.defenses = actor.defenses ∧
      ∀ (settings : Settings) (nodes : List Prerequisite),
        (∀ piece ∈ stowed, ∀ text, ∀ within ∈ nodes :: actor.items.map (·.prerequisites),
          ¬ (Prerequisite.leaf text (.asset .item piece.name)).IsWithin within) →
        { actor with items }.subject.report settings nodes =
          actor.subject.report settings nodes := by
  have hinserted : Inserted stowed actor.subject.items items := hinserted
  have hcontributions := Subject.contributions_withItems hinserted hstowed
  have hequipped := Subject.equipped_withItems hinserted hstowed
  refine ⟨defenses_withItems hcontributions hequipped, fun settings nodes hnames => ?_⟩
  obtain ⟨move, hview⟩ := Subject.exists_keepsView hinserted hstowed
  -- of all conditions, only one that asks for gear by its name sees gear that is not equipped
  have hfollows : ∀ within ∈ nodes :: actor.items.map (·.prerequisites),
      ∀ condition ∈ Prerequisite.conditionsList within, condition.Follows Eq move := by
    intro within hwithin condition hcondition
    refine hview.follows (fun _ => rfl) fun name heq => ?_
    refine Subject.any_inventory_withItems hinserted fun piece hpiece hname => ?_
    obtain ⟨text, hleaf⟩ := Prerequisite.mem_conditionsList_iff_isWithin.mp hcondition
    rw [heq, ← hname] at hleaf
    exact hnames piece hpiece text within hwithin hleaf
  refine Report.eq_of_matches (move.matches_report Joins.eq Eq.trans ?_ settings ?_)
  · intro item hitem
    exact hfollows item.prerequisites (List.mem_cons_of_mem _ (List.mem_map_of_mem hitem))
  · exact hfollows nodes List.mem_cons_self

/-- A light suit of armor that is worn. -/
def jumpsuit : Item where
  name := "Combat Jumpsuit"
  kind := .armor
  equipped := true
  armor := some { type := .light, reflexBonus := some 4 }

/-- A feat that stands as long as there is a kit. -/
def surgery : Item where
  name := "Surgical Expertise"
  kind := .feat
  prerequisites := [.leaf "a surgery kit" (.asset .item "Surgery Kit")]

/-- A better suit, which reduces damage besides and asks for what nobody has. -/
def battleArmor : Item where
  name := "Battle Armor"
  kind := .armor
  prerequisites := [.leaf "a steady hand" (.special (.other "a steady hand"))]
  attributes := [⟨.damageReduction, .number 5⟩]
  armor := some { type := .heavy, reflexBonus := some 8, maxDexterity := some 2 }

/-- A character in the light suit. -/
def medic : Actor where
  items := [jumpsuit, surgery]

/-- The better suit and a second one like that which is worn. -/
def pack : List Item := [battleArmor, { jumpsuit with equipped := false }]

theorem stowed_is_inert_battleArmor :
    let items := [battleArmor, jumpsuit, { jumpsuit with equipped := false }, surgery]
    let nodes := [.leaf "Surgical Expertise" (.asset .feat "Surgical Expertise")]
    Inserted pack medic.items items ∧ (∀ piece ∈ pack, piece.IsStowed) ∧
      { medic with items }.defenses = medic.defenses ∧
      { medic with items }.subject.report {} nodes = medic.subject.report {} nodes := by
  intro items nodes
  have hinserted : Inserted pack medic.items items := .add _ (.keep _ (.add _ (.keep _ .nil)))
  have hstowed : ∀ piece ∈ pack, piece.IsStowed := by decide
  have hunnamed : ∀ piece ∈ pack, ∀ within ∈ nodes :: medic.items.map (·.prerequisites),
      Condition.asset .item piece.name ∉ Prerequisite.conditionsList within := by decide
  obtain ⟨hdefenses, hreport⟩ := medic.stowed_is_inert hinserted hstowed
  refine ⟨hinserted, hstowed, hdefenses, hreport {} nodes ?_⟩
  intro piece hpiece text within hwithin hnamed
  exact hunnamed piece hpiece within hwithin
    (Prerequisite.mem_conditionsList_iff_isWithin.mpr ⟨text, hnamed⟩)

/-- Worn instead, the better suit does change Reflex, and stowed gear is still asked for by its name. -/
example :
    ({ medic with items := [{ battleArmor with equipped := true }, surgery] }.defenses.reflex.total,
        medic.defenses.reflex.total) = (18, 14) ∧
      let nodes := [.leaf "Battle Armor" (.asset .item "Battle Armor")]
      ((medic.addItem battleArmor).subject.report {} nodes).passes = true ∧
        (medic.subject.report {} nodes).passes = false := by
  decide +kernel

end Actor

end CharacterSheet
