import SceneCatalog.Uuid

/-!
Criteria on the relations of a scene: which values are wanted, and how they are compared. The
shape of a relation decides which comparisons it allows.
-/
namespace SceneCatalog

/-- How a criterion compares its values with the related ones. -/
inductive Modifier where
  | equals
  | notEquals
  | includes
  | excludes
  | includesAll
  | isNull
  | notNull
  | greaterThan
  | lessThan
deriving DecidableEq

namespace Modifier

def all : List Modifier :=
  [.equals, .notEquals, .includes, .excludes, .includesAll, .isNull, .notNull, .greaterThan,
    .lessThan]

def name : Modifier → String
  | .equals => "EQUALS"
  | .notEquals => "NOT_EQUALS"
  | .includes => "INCLUDES"
  | .excludes => "EXCLUDES"
  | .includesAll => "INCLUDES_ALL"
  | .isNull => "IS_NULL"
  | .notNull => "NOT_NULL"
  | .greaterThan => "GREATER_THAN"
  | .lessThan => "LESS_THAN"

def ofName? (s : String) : Option Modifier := all.find? (·.name == s)

/-- Whether the comparison looks at the values of the criterion at all. -/
def takesValues : Modifier → Bool
  | .isNull | .notNull => false
  | _ => true

end Modifier

/-- How many values a relation can have. -/
inductive Shape where
  /-- One value or none. -/
  | toOne
  /-- Any number of values. -/
  | toMany
deriving DecidableEq

namespace Shape

def name : Shape → String
  | .toOne => "to-one"
  | .toMany => "to-many"

/-- The comparisons that make sense for the shape. -/
def legalModifiers : Shape → List Modifier
  | .toOne => [.equals, .notEquals, .isNull, .notNull, .includes, .excludes]
  | .toMany => [.includes, .excludes, .includesAll]

def permits (shape : Shape) (modifier : Modifier) : Bool :=
  shape.legalModifiers.contains modifier

end Shape

/-- A relation of scenes that can be filtered by identifiers. -/
inductive Relation where
  | studios
  | performers
  | tags
deriving DecidableEq

namespace Relation

def all : List Relation := [.studios, .performers, .tags]

def name : Relation → String
  | .studios => "studios"
  | .performers => "performers"
  | .tags => "tags"

def ofName? (s : String) : Option Relation := all.find? (·.name == s)

def shape : Relation → Shape
  | .studios => .toOne
  | .performers => .toMany
  | .tags => .toMany

end Relation

/-- The values that are asked for and the comparison. -/
structure Criterion where
  value : List Uuid
  modifier : Modifier
deriving DecidableEq

end SceneCatalog
