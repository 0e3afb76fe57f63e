import CharacterSheet.Actor

/-!
# Subjects

What prerequisites are asked of. An actor answers with its whole sheet. A bare item is a subject too:
it has attributes of its own and nothing else, so it owns no items, has no age, no abilities and no
levels.
-/

namespace CharacterSheet

/-- What a judgement sees of a character or of an item. -/
structure Subject where
  attributes : List Attribute
  items : List Item := []
  age : Option UInt32 := none
  characterLevel : UInt32 := 0
  baseAttackBonus : Int64 := 0
  darkSideScore : Int64 := 0
  sex : Option String := none
  weaponProficiencies : List String := []
  armorProficiencies : List String := []
  trainedSkills : List String := []
  abilities : Option AbilityScores := none
  isExempt : Bool := false

/-- An actor as a subject. -/
def Actor.subject (actor : Actor) : Subject where
  attributes := actor.attributes
  items := actor.items
  age := actor.age
  characterLevel := actor.characterLevel
  baseAttackBonus := actor.baseAttackBonus
  darkSideScore := actor.darkSideScore
  sex := actor.sex
  weaponProficiencies := actor.weaponProficiencies
  armorProficiencies := actor.armorProficiencies
  trainedSkills := actor.trainedSkills
  abilities := some actor.abilities
  isExempt := actor.ignorePrerequisites

/-- An item as a subject. -/
def Item.subject (item : Item) : Subject where
  attributes := item.attributes

/-- An owned item with its place among the subject's items. Two items with the same contents are
still two items: the place tells them apart. -/
structure OwnedItem where
  item : Item
  place : Nat
  deriving DecidableEq

namespace Subject

/-- The score of an ability, if the subject has abilities. -/
def scoreOf (subject : Subject) (ability : Ability) : Option Int64 :=
  subject.abilities.map (·.score ability)

/-- The items, each with its place. -/
def owned (subject : Subject) : List OwnedItem :=
  subject.items.zipIdx.map fun (item, place) => ⟨item, place⟩

/-- The items of a kind. -/
def itemsOf (subject : Subject) (kind : ItemKind) : List Item :=
  subject.items.filter (·.kind == kind)

/-- What the subject carries, equipped or not. -/
def inventory (subject : Subject) : List Item :=
  subject.items.filter (·.kind.isCarried)

/-- The items that are equipped. -/
def equipped (subject : Subject) : List Item :=
  subject.items.filter (·.equipped)

end Subject

end CharacterSheet
