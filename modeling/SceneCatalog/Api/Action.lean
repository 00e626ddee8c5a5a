import SceneCatalog.Api.Body
import SceneCatalog.Api.View

/-!
What the service does for a user whose request has been read: it checks the roles, then the
arguments, and then works on the catalog.
-/
namespace SceneCatalog.Api

/-- The work for a request, which ends in an answer or an error. -/
abbrev Action := ExceptT Error (Running StoreCall StoreCall.Reply)

namespace Action

/-- Refuses a user that has not got the role. -/
def permit (actor : Actor) (role : Role) : Action Unit := ExceptT.mk (.done (require actor role))

/-- A check of arguments, which asks nothing. -/
def check (result : Except CatalogError α) : Action α :=
  ExceptT.mk (.done (result.mapError .catalog))

/-- Work on the catalog. -/
def perform (work : Work α) : Action α :=
  ExceptT.mk (work.run.bind fun result => .done (result.mapError .catalog))

end Action

/-- The greatest number of fingerprints or hashes in one look-up. -/
def maxLookup : Nat := 100

/-- Submits a fingerprint, or withdraws from it. -/
def submit (now : Timestamp) (actor : Actor) (request : SubmitRequest) : Action Json := do
  Action.permit actor .modify
  if request.users.isSome then Action.permit actor .admin
  let fingerprint ← Action.check (Fingerprint.parse request.algorithm request.hash)
  if request.unmatch then
    let retraction : Retraction := ⟨request.scene, fingerprint, actor.user, request.users⟩
    return viewRetracted actor.user (← Action.perform (retraction.run now))
  match request.duration with
  | none => throw (.badRequest "duration is required when submitting")
  | some duration =>
    let submission : Submission :=
      ⟨request.scene, ⟨fingerprint, duration⟩, actor.user, request.users⟩
    return viewSubmitted actor.user (← Action.perform (submission.run now))

/-- Looks fingerprints or hashes up. -/
def lookup (actor : Actor) (request : LookupRequest) : Action Json := do
  Action.permit actor .read
  let found ← match request.fingerprints, request.hashes with
    | [], [] => throw (.badRequest "Either 'fingerprints' or 'hashes' must be provided")
    | _ :: _, _ :: _ => throw (.badRequest "Provide 'fingerprints' or 'hashes', not both")
    | wanted@(_ :: _), [] =>
      if maxLookup < wanted.length then
        throw (.badRequest s!"At most {maxLookup} fingerprints per lookup")
      let fingerprints ←
        Action.check (wanted.mapM fun q => Fingerprint.parse q.algorithm q.hash)
      Action.perform (findByFingerprints fingerprints)
    | [], hashes@(_ :: _) =>
      if maxLookup < hashes.length then
        throw (.badRequest s!"At most {maxLookup} hashes per lookup")
      Action.perform (findByHashes hashes)
  return viewMatches actor.user found

/-- Shows the fingerprints of a scene. -/
def showScene (actor : Actor) (scene : Uuid) : Action Json := do
  Action.permit actor .read
  return viewScene actor.user scene (← Action.perform (sceneRecords scene))

/-- Reads the wish for a fingerprint. -/
def EditRequest.toEdit (request : EditRequest) : Except CatalogError Edit :=
  (Fingerprint.parse request.algorithm request.hash).map fun fingerprint =>
    ⟨⟨fingerprint, request.duration⟩, request.users⟩

/-- Gives a scene a set of fingerprints. -/
def reconcile (now : Timestamp) (actor : Actor) (scene : Uuid) (request : ReconcileRequest) :
    Action Json := do
  Action.permit actor .modify
  if request.fingerprints.any (·.users.isSome) then Action.permit actor .admin
  let desired ← Action.check (request.fingerprints.mapM EditRequest.toEdit)
  let reconciliation : Reconciliation := ⟨scene, desired, actor.user⟩
  return viewReconciled actor.user scene (← Action.perform (reconciliation.run now))

/-- Queries scenes. -/
def queryPage (maxPerPage : UInt32) (actor : Actor) (request : QueryRequest) : Action Json := do
  Action.permit actor .read
  return viewPage (← Action.perform (queryScenes request.filter request.spec maxPerPage))

end SceneCatalog.Api
