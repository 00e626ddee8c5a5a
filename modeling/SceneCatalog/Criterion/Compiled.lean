import SceneCatalog.Error
import SceneCatalog.Scene

/-!
Criteria that passed validation. A compiled criterion tests a relation in a way that fits the
shape of the relation, so it can be evaluated, or handed to a store, without further checks.
-/
namespace SceneCatalog

/-- A test on the values of a relation. -/
inductive Predicate where
  /-- There is a value and it is in the set. -/
  | isIn (set : IdSet)
  /-- There is no value, or one outside the set. -/
  | notIn (set : IdSet)
  | isNull
  | notNull
  /-- Some value is in the set. -/
  | includesAny (set : IdSet)
  /-- No value is in the set. -/
  | excludesAll (set : IdSet)
  /-- Every member of the set is a value. -/
  | includesAll (set : IdSet)
deriving DecidableEq

namespace Predicate

/-- The shape of the relations that the test is for. -/
def shape : Predicate → Shape
  | .isIn _ | .notIn _ | .isNull | .notNull => .toOne
  | .includesAny _ | .excludesAll _ | .includesAll _ => .toMany

/-- The set that is compared with, if there is one. -/
def set? : Predicate → Option IdSet
  | .isIn set | .notIn set | .includesAny set | .excludesAll set | .includesAll set => some set
  | .isNull | .notNull => none

/-- Whether the values pass. Values of the other shape never do. -/
def holds : Predicate → Related → Bool
  | .isIn set, .one value => value.any fun v => decide (v ∈ set)
  | .notIn set, .one value => value.all fun v => !decide (v ∈ set)
  | .isNull, .one value => value.isNone
  | .notNull, .one value => value.isSome
  | .includesAny set, .many values => values.toList.any fun v => decide (v ∈ set)
  | .excludesAll set, .many values => values.toList.all fun v => !decide (v ∈ set)
  | .includesAll set, .many values => set.isSubset values
  | _, _ => false

end Predicate

/-- A test on a relation of its own shape. -/
structure CompiledCriterion where
  relation : Relation
  predicate : Predicate
  fits : predicate.shape = relation.shape
deriving DecidableEq

/-- Whether the scene passes. -/
def CompiledCriterion.holds (c : CompiledCriterion) (scene : Scene) : Bool :=
  c.predicate.holds (scene.related c.relation)

/-- The test that a modifier stands for on relations of a shape. -/
def Shape.predicate? (shape : Shape) (modifier : Modifier) (values : IdSet) :
    Option { p : Predicate // p.shape = shape } :=
  match shape, modifier with
  | .toOne, .equals => some ⟨.isIn values, rfl⟩
  | .toOne, .includes => some ⟨.isIn values, rfl⟩
  | .toOne, .notEquals => some ⟨.notIn values, rfl⟩
  | .toOne, .excludes => some ⟨.notIn values, rfl⟩
  | .toOne, .isNull => some ⟨.isNull, rfl⟩
  | .toOne, .notNull => some ⟨.notNull, rfl⟩
  | .toMany, .includes => some ⟨.includesAny values, rfl⟩
  | .toMany, .excludes => some ⟨.excludesAll values, rfl⟩
  | .toMany, .includesAll => some ⟨.includesAll values, rfl⟩
  | _, _ => none

/-- Compiles a criterion on a relation. An illegal modifier is reported before missing values. -/
def Criterion.compile (relation : Relation) (c : Criterion) : Except CatalogError CompiledCriterion :=
  let values := IdSet.ofList c.value
  match relation.shape.predicate? c.modifier values with
  | none => .error (.invalidModifier relation c.modifier)
  | some ⟨predicate, fits⟩ =>
    if c.modifier.takesValues ∧ values = ∅ then
      .error (.missingCriterionValue relation c.modifier)
    else .ok ⟨relation, predicate, fits⟩

/-- The table of legal modifiers lists exactly those that stand for a test. -/
theorem Shape.permits_iff (shape : Shape) (modifier : Modifier) (values : IdSet) :
    shape.permits modifier = true ↔ (shape.predicate? modifier values).isSome = true := by
  cases shape <;> cases modifier <;> simp [permits, legalModifiers, predicate?]

end SceneCatalog
