import CharacterSheet.Prerequisite.Basic
import CharacterSheet.Text.Blank

/-!
# Tags

The authored tag of a node says what kind of node it is. Content spells tags loosely: blanks around
them, the case of their letters and underscores for spaces make no difference. `Tag.ofText?` reads
them so; a text that is no tag of the vocabulary is not an error, its node loads as unsupported.
-/

namespace CharacterSheet

/-- The tags of leaves. -/
inductive LeafTag where
  | age
  | characterLevel
  | baseAttackBonus
  | darkSideScore
  | asset (kind : Asset)
  | attributeSum
  | special
  deriving DecidableEq

/-- The tags of nodes. -/
inductive Tag where
  | leaf (tag : LeafTag)
  | all
  | any
  deriving DecidableEq

/-- The tag of a leaf that asks for an asset. -/
def Asset.tagText : Asset → String
  | .item => "ITEM"
  | .species => "SPECIES"
  | .trainedSkill => "TRAINED SKILL"
  | .feat => "FEAT"
  | .heroicClass => "CLASS"
  | .trait => "TRAIT"
  | .talent => "TALENT"
  | .tradition => "TRADITION"
  | .technique => "FORCE TECHNIQUE"
  | .proficiency => "PROFICIENCY"
  | .gender => "GENDER"
  | .equipped => "EQUIPPED"

/-- Every kind of asset. -/
def Asset.list : List Asset :=
  [.item, .species, .trainedSkill, .feat, .heroicClass, .trait, .talent, .tradition, .technique,
    .proficiency, .gender, .equipped]

/-- The canonical text of a leaf's tag. -/
def LeafTag.text : LeafTag → String
  | .age => "AGE"
  | .characterLevel => "CHARACTER LEVEL"
  | .baseAttackBonus => "BASE ATTACK BONUS"
  | .darkSideScore => "DARK SIDE SCORE"
  | .asset kind => kind.tagText
  | .attributeSum => "ATTRIBUTE"
  | .special => "SPECIAL"

namespace Tag

/-- The canonical text of a tag. -/
def text : Tag → String
  | .leaf tag => tag.text
  | .all => "AND"
  | .any => "OR"

/-- Every tag of the vocabulary. -/
def list : List Tag :=
  [.all, .any, .leaf .age, .leaf .characterLevel, .leaf .baseAttackBonus, .leaf .darkSideScore,
    .leaf .attributeSum, .leaf .special] ++ Asset.list.map fun kind => .leaf (.asset kind)

/-- The canonical spelling: no blanks around it, `A` to `Z` in upper case, spaces for underscores. -/
def normalize (s : String) : List Char :=
  ((Text.trim s.toList).map Char.toUpper).map fun c => if c = '_' then ' ' else c

/-- The tag that a text spells. -/
def ofText? (s : String) : Option Tag :=
  list.find? fun tag => tag.text.toList == normalize s

theorem mem_list (tag : Tag) : tag ∈ list := by
  rcases tag with (_ | _ | _ | _ | kind | _ | _) | _ | _
  all_goals first | decide | (cases kind <;> decide)

/-- A tag's own text spells that tag. -/
@[simp] theorem ofText?_text (tag : Tag) : ofText? tag.text = some tag := by
  rcases tag with (_ | _ | _ | _ | kind | _ | _) | _ | _
  all_goals first | decide +kernel | (cases kind <;> decide +kernel)

end Tag

/-- The tag of a condition, as authored where it is not of the vocabulary. -/
def Condition.tagText : Condition → String
  | .age _ _ => LeafTag.age.text
  | .characterLevel _ => LeafTag.characterLevel.text
  | .baseAttackBonus _ => LeafTag.baseAttackBonus.text
  | .darkSideScore _ => LeafTag.darkSideScore.text
  | .asset kind _ => kind.tagText
  | .techniqueCount _ => Asset.technique.tagText
  | .attributeSum _ _ => LeafTag.attributeSum.text
  | .special _ => LeafTag.special.text
  | .unsupported tag _ => tag

/-- The tag of a node. -/
def Prerequisite.tagText : Prerequisite → String
  | .leaf _ condition => condition.tagText
  | .all _ _ => Tag.all.text
  | .any _ _ _ => Tag.any.text

end CharacterSheet
