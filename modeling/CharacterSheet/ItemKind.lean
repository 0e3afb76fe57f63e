import CharacterSheet.Json.Record

/-!
# Kinds of items

Everything that a character has is an item: what it learned, what it is, what it carries and the
conditions it suffers from. Only what it carries is gear.
-/

namespace CharacterSheet

/-- The kinds of items. -/
inductive ItemKind where
  | feat
  | heroicClass
  | trait
  | talent
  | forceTradition
  | forceTechnique
  | species
  | armor
  | weapon
  | equipment
  | condition
  deriving DecidableEq

namespace ItemKind

/-- Every kind. -/
def list : List ItemKind :=
  [.feat, .heroicClass, .trait, .talent, .forceTradition, .forceTechnique, .species, .armor, .weapon,
    .equipment, .condition]

/-- The name of a kind in a file. -/
def key : ItemKind → String
  | .feat => "feat"
  | .heroicClass => "class"
  | .trait => "trait"
  | .talent => "talent"
  | .forceTradition => "forceTradition"
  | .forceTechnique => "forceTechnique"
  | .species => "species"
  | .armor => "armor"
  | .weapon => "weapon"
  | .equipment => "equipment"
  | .condition => "condition"

/-- Whether items of this kind are carried, and so have to be equipped to take effect. -/
def isCarried : ItemKind → Bool
  | .armor | .weapon | .equipment => true
  | _ => false

/-- Reads a kind by its name in a file. -/
def ofJson : Json → Json.Decoded ItemKind :=
  Json.asChoice (list.map fun kind => (kind.key, kind))

theorem mem_list (kind : ItemKind) : kind ∈ list := by
  cases kind <;> decide

end ItemKind

end CharacterSheet
