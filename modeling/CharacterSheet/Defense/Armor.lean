import CharacterSheet.Actor

/-!
# Armor and speed

How armor slows its wearer, and the line that the sheet has for each suit that is worn.
-/

namespace CharacterSheet

/-- The squares that are left of a speed in armor: all of them in light armor, three quarters rounded
down in any other, where three times the squares go around the range of a count if they leave it. -/
def ArmorType.slow (type : ArmorType) (squares : UInt32) : UInt32 :=
  match type with
  | .light => squares
  | .medium | .heavy => squares * 3 / 4

/-- What the sheet says about a suit of armor. -/
structure ArmorLine where
  name : String
  speed : List Speed
  reflex : Int64
  fortitude : Int64
  maxDexterity : Int64
  notes : String
  type : ArmorType
  deriving DecidableEq

namespace ArmorLine

/-- The line as a file has it. -/
def toJson (line : ArmorLine) : Json :=
  .object [
    ("name", .string line.name),
    ("speed", Json.list Speed.toJson line.speed),
    ("refDefense", .integer line.reflex.toInt),
    ("fortDefense", .integer line.fortitude.toInt),
    ("maxDex", .integer line.maxDexterity.toInt),
    ("notes", .string line.notes),
    ("type", .string line.type.title)]

end ArmorLine

namespace Actor

/-- The line of an item, if it has armor stats. -/
def armorLine? (actor : Actor) (item : Item) : Option ArmorLine :=
  item.armor.map fun stats => {
    name := item.name
    speed := actor.speed
    reflex := stats.reflexBonus.getD 0
    fortitude := stats.fortitudeBonus.getD 0
    maxDexterity := stats.maxDexterity.getD 0
    notes := String.intercalate ", " stats.special
    type := stats.type }

/-- The lines of the suits that are worn. -/
def armorLines (actor : Actor) : List ArmorLine :=
  (actor.equipped.filter (·.kind == .armor)).filterMap actor.armorLine?

/-- The armor stats of everything that is equipped, whatever its kind. -/
def wornStats (actor : Actor) : List ArmorStats :=
  actor.equipped.filterMap (·.armor)

end Actor

end CharacterSheet
