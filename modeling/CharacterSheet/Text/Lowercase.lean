import CharacterSheet.Text.Case.LowerMapping
import CharacterSheet.Text.Case.Cased
import CharacterSheet.Text.Case.Ignorable

/-!
# Lower case

Skills, proficiencies and genders are compared without regard to case. The comparison goes through
the full lower case of Unicode, so `É` meets `é`. Two characters need more than the mapping of single
characters:

* `İ` becomes `i` followed by a combining dot above;
* `Σ` becomes `ς` at the end of a word and `σ` elsewhere. The end of a word is where a letter with
  case stands before it and none after it, looking past the characters that casing ignores.

ASCII case alone has `Char.toUpper` and `Char.toLower` of core.
-/

namespace CharacterSheet.Text

/-- The lower case of a character that stands alone. -/
def lowerChar (c : Char) : List Char :=
  if c = 'İ' then ['i', '\u0307']
  else match lowerRuns.find? (·.covers c.toNat) with
    | some run => [Char.ofNat ((c.toNat : Int) + run.offset).toNat]
    | none => [c]

/-- Whether the nearest character that casing does not ignore has a case. -/
def meetsCased (s : List Char) : Bool :=
  match s.dropWhile isCaseIgnorable with
  | [] => false
  | c :: _ => isCased c

/-- The lower case of a text, where `before` is what stands in front of it, nearest first. -/
def lowercaseAfter (before : List Char) : List Char → List Char
  | [] => []
  | c :: rest =>
    let lower :=
      if c = 'Σ' then [if meetsCased before && !meetsCased rest then 'ς' else 'σ'] else lowerChar c
    lower ++ lowercaseAfter (c :: before) rest

/-- The lower case of a text. -/
def lowercase (s : List Char) : List Char :=
  lowercaseAfter [] s

/-- Whether two texts are the same but for case. -/
def sameLowercase (s t : String) : Bool :=
  lowercase s.toList == lowercase t.toList

/-- Whether two texts are the same but for the case of the letters `A` to `Z`. -/
def sameAsciiLowercase (s t : String) : Bool :=
  s.toList.map Char.toLower == t.toList.map Char.toLower

example : String.ofList (lowercase "ΟΔΟΣ Σ ΣΑ İx ÉA".toList) = "οδος σ σα i̇x éa" := by decide +kernel

end CharacterSheet.Text
