import SceneCatalog.Text.Hex
import SceneCatalog.Text.Parts

/-!
Attributes of performers. They are stored as free text that predates any validation, so a stored
value is resolved to a known one where it names one, and to nothing where it does not.
-/
namespace SceneCatalog

open Text

/-- A closed list of values, each with its name. -/
class Attribute (α : Type) where
  all : List α
  name : α → String

namespace Attribute

/-- The value with exactly that name. -/
def ofName? [Attribute α] (s : String) : Option α := all.find? fun a => name a == s

/-- The value that a stored text names; blanks around it and letter case do not matter. -/
def resolve? [Attribute α] (raw : String) : Option α :=
  all.find? fun a => lowerAscii (name a) == lowerAscii (trim raw)

end Attribute

inductive Gender where
  | male
  | female
  | transgenderMale
  | transgenderFemale
  | intersex
  | nonBinary
deriving DecidableEq

instance : Attribute Gender where
  all := [.male, .female, .transgenderMale, .transgenderFemale, .intersex, .nonBinary]
  name
    | .male => "MALE"
    | .female => "FEMALE"
    | .transgenderMale => "TRANSGENDER_MALE"
    | .transgenderFemale => "TRANSGENDER_FEMALE"
    | .intersex => "INTERSEX"
    | .nonBinary => "NON_BINARY"

inductive HairColor where
  | blonde
  | brunette
  | black
  | red
  | auburn
  | grey
  | bald
  | various
  | other
deriving DecidableEq

instance : Attribute HairColor where
  all := [.blonde, .brunette, .black, .red, .auburn, .grey, .bald, .various, .other]
  name
    | .blonde => "BLONDE"
    | .brunette => "BRUNETTE"
    | .black => "BLACK"
    | .red => "RED"
    | .auburn => "AUBURN"
    | .grey => "GREY"
    | .bald => "BALD"
    | .various => "VARIOUS"
    | .other => "OTHER"

inductive EyeColor where
  | blue
  | brown
  | grey
  | green
  | hazel
  | red
deriving DecidableEq

instance : Attribute EyeColor where
  all := [.blue, .brown, .grey, .green, .hazel, .red]
  name
    | .blue => "BLUE"
    | .brown => "BROWN"
    | .grey => "GREY"
    | .green => "GREEN"
    | .hazel => "HAZEL"
    | .red => "RED"

inductive Ethnicity where
  | caucasian
  | black
  | asian
  | indian
  | latin
  | middleEastern
  | mixed
  | other
deriving DecidableEq

instance : Attribute Ethnicity where
  all := [.caucasian, .black, .asian, .indian, .latin, .middleEastern, .mixed, .other]
  name
    | .caucasian => "CAUCASIAN"
    | .black => "BLACK"
    | .asian => "ASIAN"
    | .indian => "INDIAN"
    | .latin => "LATIN"
    | .middleEastern => "MIDDLE_EASTERN"
    | .mixed => "MIXED"
    | .other => "OTHER"

inductive BreastType where
  | natural
  | fake
  /-- The attribute does not apply. -/
  | notApplicable
deriving DecidableEq

instance : Attribute BreastType where
  all := [.natural, .fake, .notApplicable]
  name
    | .natural => "NATURAL"
    | .fake => "FAKE"
    | .notApplicable => "NA"

/-- The attributes of a performer as they are stored. -/
structure PerformerAttributes where
  gender : Option String
  hairColor : Option String
  eyeColor : Option String
  ethnicity : Option String
  breastType : Option String
deriving DecidableEq

namespace PerformerAttributes

def gender? (p : PerformerAttributes) : Option Gender := p.gender.bind Attribute.resolve?

def hairColor? (p : PerformerAttributes) : Option HairColor := p.hairColor.bind Attribute.resolve?

def eyeColor? (p : PerformerAttributes) : Option EyeColor := p.eyeColor.bind Attribute.resolve?

def ethnicity? (p : PerformerAttributes) : Option Ethnicity := p.ethnicity.bind Attribute.resolve?

def breastType? (p : PerformerAttributes) : Option BreastType :=
  p.breastType.bind Attribute.resolve?

end PerformerAttributes

end SceneCatalog
