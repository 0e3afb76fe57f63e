import CharacterSheet.Compendium.References

/-!
# The conditions of a tree

The conditions at the leaves of a list of nodes, whatever combinations stand above them. A leaf stands
within a list if it is one of its nodes or stands below one (`Prerequisite.IsWithin`), and the
conditions of the list are those of the leaves within it. The entries that a list names are what its
conditions name, which only feats, classes, traits, talents, traditions and techniques do.
-/

namespace CharacterSheet

namespace Prerequisite

/-! ## Gathered from a tree -/

mutual

/-- The conditions at the leaves of a node, in order. -/
def conditions : Prerequisite → List Condition
  | leaf _ condition => [condition]
  | all _ children | any _ _ children => conditionsList children

/-- The conditions at the leaves of a list of nodes, in order. -/
def conditionsList : List Prerequisite → List Condition
  | [] => []
  | node :: rest => conditions node ++ conditionsList rest

end

/-- A list has the conditions of its nodes. -/
theorem mem_conditionsList {condition : Condition} {nodes : List Prerequisite} :
    condition ∈ conditionsList nodes ↔ ∃ node ∈ nodes, condition ∈ node.conditions := by
  induction nodes with
  | nil => simp [conditionsList]
  | cons node rest ih => simp [conditionsList, ih]

mutual

/-- What a node names is what its conditions name. -/
theorem references_eq_filterMap :
    (node : Prerequisite) → references node = node.conditions.filterMap Condition.reference?
  | leaf _ condition => by
    rw [references, conditions]
    cases h : condition.reference? <;> simp [h]
  | all _ children => referencesList_eq_filterMap children
  | any _ _ children => referencesList_eq_filterMap children

theorem referencesList_eq_filterMap : (nodes : List Prerequisite) →
    referencesList nodes = (conditionsList nodes).filterMap Condition.reference?
  | [] => rfl
  | node :: rest => by
    rw [referencesList, conditionsList, List.filterMap_append, references_eq_filterMap node,
      referencesList_eq_filterMap rest]

end

/-! ## Within a tree -/

/-- The node is one of the list, or stands below one of them at any depth. -/
inductive IsWithin (node : Prerequisite) : List Prerequisite → Prop where
  | here {nodes : List Prerequisite} (mem : node ∈ nodes) : IsWithin node nodes
  | deeper {nodes : List Prerequisite} {parent : Prerequisite} (mem : parent ∈ nodes)
      (within : IsWithin node parent.children) : IsWithin node nodes

theorem IsWithin.mono {node : Prerequisite} {nodes more : List Prerequisite}
    (h : node.IsWithin nodes) (hsubset : nodes ⊆ more) : node.IsWithin more := by
  cases h with
  | here mem => exact .here (hsubset mem)
  | deeper mem within => exact .deeper (hsubset mem) within

/-- What stands below a node belongs to it. -/
theorem conditionsList_children_subset (node : Prerequisite) :
    conditionsList node.children ⊆ node.conditions := by
  cases node with
  | leaf text condition => exact List.nil_subset _
  | all text children => exact List.Subset.refl _
  | any text count children => exact List.Subset.refl _

theorem mem_conditionsList_of_isWithin {text : String} {condition : Condition}
    {nodes : List Prerequisite} (h : (leaf text condition).IsWithin nodes) :
    condition ∈ conditionsList nodes := by
  induction h with
  | here mem => exact mem_conditionsList.mpr ⟨_, mem, List.mem_singleton_self condition⟩
  | @deeper nodes parent mem _ ih =>
    exact mem_conditionsList.mpr ⟨parent, mem, parent.conditionsList_children_subset ih⟩

mutual

theorem exists_isWithin_of_mem_conditions {condition : Condition} : (node : Prerequisite) →
    condition ∈ node.conditions → ∃ text, (leaf text condition).IsWithin [node]
  | leaf text other, h => by
    obtain rfl := List.mem_singleton.mp h
    exact ⟨text, .here (List.mem_singleton_self _)⟩
  | all text children, h => by
    obtain ⟨shown, hwithin⟩ := exists_isWithin_of_mem_conditionsList children h
    exact ⟨shown, .deeper (List.mem_singleton_self _) hwithin⟩
  | any text count children, h => by
    obtain ⟨shown, hwithin⟩ := exists_isWithin_of_mem_conditionsList children h
    exact ⟨shown, .deeper (List.mem_singleton_self _) hwithin⟩

theorem exists_isWithin_of_mem_conditionsList {condition : Condition} :
    (nodes : List Prerequisite) → condition ∈ conditionsList nodes →
      ∃ text, (leaf text condition).IsWithin nodes
  | [], h => by cases h
  | node :: rest, h => by
    rcases List.mem_append.mp h with hnode | hrest
    · obtain ⟨text, hwithin⟩ := exists_isWithin_of_mem_conditions node hnode
      exact ⟨text, hwithin.mono (List.cons_subset_cons node (List.nil_subset rest))⟩
    · obtain ⟨text, hwithin⟩ := exists_isWithin_of_mem_conditionsList rest hrest
      exact ⟨text, hwithin.mono (List.subset_cons_self node rest)⟩

end

/-- The conditions of a list are those of the leaves within it. -/
theorem mem_conditionsList_iff_isWithin {condition : Condition} {nodes : List Prerequisite} :
    condition ∈ conditionsList nodes ↔ ∃ text, (leaf text condition).IsWithin nodes :=
  ⟨exists_isWithin_of_mem_conditionsList nodes, fun ⟨_, h⟩ => mem_conditionsList_of_isWithin h⟩

end Prerequisite

/-! ## Names of entries -/

/-- The condition names the entry. -/
inductive Condition.Names : Condition → Entry → Prop where
  | feat (name : String) : Names (.asset .feat name) ⟨.feat, name⟩
  | heroicClass (name : String) : Names (.asset .heroicClass name) ⟨.heroicClass, name⟩
  | trait (name : String) : Names (.asset .trait name) ⟨.trait, name⟩
  | talent (name : String) : Names (.asset .talent name) ⟨.talent, name⟩
  | tradition (name : String) : Names (.asset .tradition name) ⟨.forceTradition, name⟩
  | technique (name : String) : Names (.asset .technique name) ⟨.forceTechnique, name⟩

theorem Condition.reference?_eq_some_iff {condition : Condition} {entry : Entry} :
    condition.reference? = some entry ↔ condition.Names entry := by
  constructor
  · intro h
    cases condition with
    | asset kind name =>
      cases kind with
      | item | species | trainedSkill | proficiency | gender | equipped => cases h
      | feat | heroicClass | trait | talent | tradition | technique =>
        obtain rfl := Option.some.inj h
        constructor
    | _ => cases h
  · intro h
    cases h <;> rfl

/-- A list names what a leaf within it names. -/
theorem Prerequisite.mem_referencesList_iff {entry : Entry} {nodes : List Prerequisite} :
    entry ∈ referencesList nodes ↔
      ∃ text condition, (leaf text condition).IsWithin nodes ∧ condition.Names entry := by
  rw [referencesList_eq_filterMap, List.mem_filterMap]
  simp only [mem_conditionsList_iff_isWithin, Condition.reference?_eq_some_iff]
  exact ⟨fun ⟨condition, ⟨text, hwithin⟩, hnames⟩ => ⟨text, condition, hwithin, hnames⟩,
    fun ⟨text, condition, hwithin, hnames⟩ => ⟨condition, ⟨text, hwithin⟩, hnames⟩⟩

end CharacterSheet
