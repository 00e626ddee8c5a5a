import SceneCatalog.Filter
import SceneCatalog.Page
import SceneCatalog.SceneFingerprints

/-!
The content of a catalog that is kept in memory: scenes by identifier, and for each scene the
stored list of its records. A stored list may repeat a fingerprint, and may belong to a scene that
is not known.
-/
namespace SceneCatalog

/-- The content of a catalog. A scene without records has no entry in `stored`. -/
structure Catalog where
  scenes : List Scene
  stored : List (Uuid × List Record)
  distinct : Scene.Distinct scenes
deriving DecidableEq

namespace Catalog

def empty : Catalog := ⟨[], [], .nil⟩

instance : EmptyCollection Catalog := ⟨empty⟩

def scene? (c : Catalog) (id : Uuid) : Option Scene := c.scenes.find? fun s => decide (s.id = id)

/-- Puts a scene in, in the place of one with the same identifier if there is one. -/
def insertScene (c : Catalog) (scene : Scene) : Catalog :=
  { c with scenes := Scene.replace c.scenes scene, distinct := c.distinct.replace scene }

/-- A catalog with scenes and no records. -/
def ofScenes (scenes : List Scene) : Catalog := scenes.foldl insertScene ∅

/-- The number of scenes. -/
def size (c : Catalog) : Nat := c.scenes.length

/-- The stored list of a scene. -/
def records (c : Catalog) (scene : Uuid) : List Record := (c.stored.lookup scene).getD []

/-- Replaces the stored list of a scene. -/
def save (c : Catalog) (scene : Uuid) (records : List Record) : Catalog :=
  let others := c.stored.filter fun entry => !decide (entry.1 = scene)
  { c with stored := if records.isEmpty then others else others ++ [(scene, records)] }

/-- The number of records in all stored lists. -/
def recordCount (c : Catalog) : Nat := (c.stored.flatMap (·.2)).length

/-- The known scenes that have a stored record passing a test, in the order of scenes. -/
def scenesWith (c : Catalog) (p : Record → Bool) : List Uuid :=
  (Scene.inOrder (c.scenes.filter fun s => (c.records s.id).any p)).map (·.id)

/-- The scenes that pass a filter, in the order of scenes. -/
def matching (c : Catalog) (filter : CompiledFilter) : List Scene :=
  Scene.inOrder (c.scenes.filter filter.holds)

/-- One page of the scenes that pass a filter, and how many pass it. -/
def page (c : Catalog) (filter : CompiledFilter) (page : Page) : List Scene × UInt64 :=
  let found := c.matching filter
  (page.slice found, UInt64.ofNat found.length)

end Catalog

end SceneCatalog
