import SceneCatalog.Filter
import SceneCatalog.Json.Basic
import SceneCatalog.Page
import SceneCatalog.Record

/-!
Scenes, filters and pages as they are sent in JSON.
-/
namespace SceneCatalog

def Uuid.toJson (id : Uuid) : Json := .string id.toString

def IdSet.toJson (set : IdSet) : Json := Json.ofList Uuid.toJson set.toList

def Timestamp.toJson (t : Timestamp) : Json := .string t.toRfc3339

def Scene.toJson (scene : Scene) : Json :=
  .object [
    ("id", scene.id.toJson),
    ("title", Json.ofOption .string scene.title),
    ("studio_id", Json.ofOption Uuid.toJson scene.studio),
    ("performer_ids", scene.performers.toJson),
    ("tag_ids", scene.tags.toJson),
    ("created_at", scene.created.toJson)]

def Fingerprint.toJson (f : Fingerprint) : Json :=
  .object [("algorithm", .string f.algorithm.name), ("hash", .string f.hash)]

def Criterion.toJson (c : Criterion) : Json :=
  .object [("value", Json.ofList Uuid.toJson c.value), ("modifier", .string c.modifier.name)]

def Filter.toJson (filter : Filter) : Json :=
  .object [
    ("title", Json.ofOption .string filter.title),
    ("studios", Json.ofOption Criterion.toJson filter.studios),
    ("performers", Json.ofOption Criterion.toJson filter.performers),
    ("tags", Json.ofOption Criterion.toJson filter.tags)]

def PageOf.toJson (encode : α → Json) (p : PageOf α) : Json :=
  .object [
    ("count", .nat p.count.toNat),
    ("page", .nat p.page.toNat),
    ("per_page", .nat p.perPage.toNat),
    ("items", Json.ofList encode p.items)]

end SceneCatalog
