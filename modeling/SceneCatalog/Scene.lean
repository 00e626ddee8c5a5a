import SceneCatalog.Criterion.Basic
import SceneCatalog.IdSet
import SceneCatalog.Timestamp

/-!
What the catalog knows of a scene: enough to filter it and to put it in order.
-/
namespace SceneCatalog

structure Scene where
  id : Uuid
  title : Option String
  studio : Option Uuid
  performers : IdSet
  tags : IdSet
  created : Timestamp
deriving DecidableEq

/-- The values of a relation. -/
inductive Related where
  | one (value : Option Uuid)
  | many (values : IdSet)
deriving DecidableEq

namespace Scene

/-- The values that a scene has for a relation. -/
def related (scene : Scene) : Relation → Related
  | .studios => .one scene.studio
  | .performers => .many scene.performers
  | .tags => .many scene.tags

/-- The order of scenes: by time of creation, then by identifier. -/
def precedes (a b : Scene) : Bool :=
  decide (a.created < b.created) || (a.created == b.created && decide (a.id ≤ b.id))

/-- The scenes in order. -/
def inOrder (scenes : List Scene) : List Scene := scenes.mergeSort precedes

/-- A scene of which nothing is known but its identifier and its time. -/
def bare (id : Uuid) (created : Timestamp) : Scene := ⟨id, none, none, ∅, ∅, created⟩

/-- No identifier stands for two scenes. -/
def Distinct (scenes : List Scene) : Prop := scenes.Pairwise fun a b => a.id ≠ b.id

/-- The scenes with one put in the place of that with the same identifier, if there is one. -/
def replace (scenes : List Scene) (scene : Scene) : List Scene :=
  scenes.filter (fun s => !decide (s.id = scene.id)) ++ [scene]

theorem Distinct.filter {scenes : List Scene} (h : Distinct scenes) (p : Scene → Bool) :
    Distinct (scenes.filter p) := List.Pairwise.filter p h

theorem Distinct.replace {scenes : List Scene} (h : Distinct scenes) (scene : Scene) :
    Distinct (Scene.replace scenes scene) := by
  refine List.pairwise_append.mpr ⟨h.filter _, List.pairwise_singleton .., fun a ha b hb => ?_⟩
  rw [List.mem_singleton.mp hb]
  simpa using (List.mem_filter.mp ha).2

end Scene

end SceneCatalog
