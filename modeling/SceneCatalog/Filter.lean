import SceneCatalog.Criterion.Compiled
import SceneCatalog.Text.Lower
import SceneCatalog.Text.Parts

/-!
Filters of scenes: a fragment of the title and criteria on the relations, all of which have to
hold.
-/
namespace SceneCatalog

open Text

structure Filter where
  title : Option String
  studios : Option Criterion
  performers : Option Criterion
  tags : Option Criterion
deriving DecidableEq

/-- A filter whose criteria have been compiled. The title is a fragment in small letters. -/
structure CompiledFilter where
  title : Option String
  criteria : List CompiledCriterion
deriving DecidableEq

namespace Filter

def empty : Filter := ⟨none, none, none, none⟩

/-- The criterion on a relation. -/
def criterion? (filter : Filter) : Relation → Option Criterion
  | .studios => filter.studios
  | .performers => filter.performers
  | .tags => filter.tags

/-- The fragment that titles are searched for; a blank title asks for nothing. -/
def fragment? (filter : Filter) : Option String :=
  (filter.title.map trim).filter (· ≠ "") |>.map lower

/-- Compiles the criteria in the order of the relations; the first that fails is reported. -/
def compile (filter : Filter) : Except CatalogError CompiledFilter := do
  let criteria ← Relation.all.filterMapM fun relation =>
    match filter.criterion? relation with
    | some criterion => some <$> criterion.compile relation
    | none => pure none
  return ⟨filter.fragment?, criteria⟩

end Filter

/-- Whether a title holds the fragment, letter case left out of account. -/
def titleHolds (fragment : String) (title : String) : Bool :=
  occursIn fragment.toList (lower title).toList

/-- Whether the scene passes the filter. A scene without a title passes no title test. -/
def CompiledFilter.holds (filter : CompiledFilter) (scene : Scene) : Bool :=
  (match filter.title with
    | some fragment => scene.title.any (titleHolds fragment)
    | none => true) &&
  filter.criteria.all (·.holds scene)

end SceneCatalog
