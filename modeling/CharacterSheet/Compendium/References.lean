import CharacterSheet.Compendium.Basic

/-!
# The compendium of a set of items

An item requires the items that its prerequisites name, at any depth of combinations: feats, classes,
traits, talents, traditions and techniques. A name that no item of the set goes by, such as that of a
talent tree, makes no link.
-/

namespace CharacterSheet

/-- The kind of the items whose own prerequisites matter to a condition that names them. -/
def Asset.ownedKind? : Asset → Option ItemKind
  | .feat => some .feat
  | .heroicClass => some .heroicClass
  | .trait => some .trait
  | .talent => some .talent
  | .tradition => some .forceTradition
  | .technique => some .forceTechnique
  | _ => none

/-- The entry that a condition names. -/
def Condition.reference? : Condition → Option Entry
  | .asset kind name => kind.ownedKind?.map fun kind => ⟨kind, name⟩
  | _ => none

namespace Prerequisite

mutual

/-- The entries that a node names, in order. -/
def references : Prerequisite → List Entry
  | leaf _ condition => condition.reference?.toList
  | all _ children | any _ _ children => referencesList children

/-- The entries that the nodes of a list name, in order. -/
def referencesList : List Prerequisite → List Entry
  | [] => []
  | node :: rest => references node ++ referencesList rest

end

end Prerequisite

namespace Compendium

/-- Links an entry to those of the `references` that are entries. -/
def linkKnown (c : Compendium) (entry : Entry) (references : List Entry) : Compendium :=
  references.foldl (fun c reference => if reference ∈ c.entries then c.link entry reference else c) c

/-- The compendium of a set of items. -/
def ofItems (items : List Item) : Compendium :=
  let mentioned := items.foldl (fun c item => c.add (.ofItem item)) empty
  items.foldl
    (fun c item => c.linkKnown (.ofItem item) (Prerequisite.referencesList item.prerequisites))
    mentioned

end Compendium

end CharacterSheet
