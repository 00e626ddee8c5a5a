import SceneCatalog.Consensus
import SceneCatalog.Lookup
import SceneCatalog.Wire.Encode

/-!
What clients get to see. Of the users behind a fingerprint a client learns their number and whether
it is one of them.
-/
namespace SceneCatalog.Api

/-- A record as a user sees it. -/
def viewRecord (viewer : Uuid) (r : Record) : Json :=
  .object [
    ("algorithm", .string r.fingerprint.algorithm.name),
    ("hash", .string r.fingerprint.hash),
    ("duration", .nat r.duration.toNat),
    ("submissions", .nat r.submissions),
    ("user_submitted", .bool (r.isSubmittedBy viewer)),
    ("created", r.created.toJson),
    ("updated", r.updated.toJson)]

def viewRecords (viewer : Uuid) (records : List Record) : Json :=
  Json.ofList (viewRecord viewer) records

def viewSubmitted (viewer : Uuid) (result : Submitted) : Json :=
  let name := match result.outcome with
    | .created => "created"
    | .corroborated _ => "corroborated"
    | .unchanged => "unchanged"
  .object [
    ("outcome", .string name),
    ("changed", .bool result.outcome.isChange),
    ("fingerprint", viewRecord viewer result.record)]

/-- A record that does not survive is left out. -/
def viewRetracted (viewer : Uuid) (result : Retracted) : Json :=
  let name := match result.outcome with
    | .retracted _ => "retracted"
    | .removed => "removed"
    | .unchanged => "unchanged"
    | .absent => "absent"
  .object <| [
    ("outcome", .string name),
    ("changed", .bool result.outcome.isChange)] ++
    (result.record.map fun r => ("fingerprint", viewRecord viewer r)).toList

def viewReconciled (viewer : Uuid) (scene : Uuid) (result : Reconciled) : Json :=
  .object [
    ("scene_id", scene.toJson),
    ("added", .nat result.summary.added),
    ("kept", .nat result.summary.kept),
    ("removed", .nat result.summary.removed),
    ("corroborated", .nat result.summary.corroborated),
    ("fingerprints", viewRecords viewer result.records)]

def viewScene (viewer : Uuid) (scene : Uuid) (records : List Record) : Json :=
  .object [("scene_id", scene.toJson), ("fingerprints", viewRecords viewer records)]

def viewMatches (viewer : Uuid) (found : List Match) : Json :=
  let view (m : Match) : Json :=
    .object [("scene_id", m.scene.toJson), ("fingerprint", viewRecord viewer m.record)]
  .object [
    ("found", .bool !found.isEmpty),
    ("count", .nat found.length),
    ("matches", Json.ofList view found)]

def viewPage (page : PageOf Scene) : Json := page.toJson Scene.toJson

end SceneCatalog.Api
