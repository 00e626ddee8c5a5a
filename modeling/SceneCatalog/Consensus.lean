import SceneCatalog.StoreCall

/-!
Changes of the fingerprints of a scene. Every change runs in the same way: with the lock of the
scene held, the stored records are loaded in a transaction, the pure operation is applied to the
collection they stand for, and the new records are saved and committed if the operation changed
something.
-/
namespace SceneCatalog

/-- A wish to stand behind a fingerprint of a scene, for the acting user or for the users named. -/
structure Submission where
  scene : Uuid
  claimed : Claimed
  acting : Uuid
  users : Option (List Uuid)
deriving DecidableEq

/-- A wish to withdraw from a fingerprint of a scene, for the acting user or for the users named. -/
structure Retraction where
  scene : Uuid
  fingerprint : Fingerprint
  acting : Uuid
  users : Option (List Uuid)
deriving DecidableEq

/-- A wish to give a scene a set of fingerprints. -/
structure Reconciliation where
  scene : Uuid
  desired : List Edit
  acting : Uuid
deriving DecidableEq

/-- What a submission did and the record as it stands. -/
structure Submitted where
  outcome : SubmitOutcome
  record : Record
deriving DecidableEq

/-- What a withdrawal did and the record if it survives. -/
structure Retracted where
  outcome : RetractOutcome
  record : Option Record
deriving DecidableEq

/-- What a reconciliation did and the records afterwards. -/
structure Reconciled where
  summary : Summary
  records : List Record
deriving DecidableEq

/-- The users that a call is about: those named, or the acting user if none are. Naming nobody is
refused. -/
def resolveUsers (acting : Uuid) : Option (List Uuid) → Except CatalogError IdSet
  | none => .ok (IdSet.singleton acting)
  | some [] => .error .emptySubmitters
  | some (user :: users) => .ok (IdSet.ofList (user :: users))

/-- The effect of a call on a collection: its answer, and the new collection if there is one to be
written. -/
abbrev Effect (α : Type) := Except CatalogError (α × Option SceneFingerprints)

/-- Adds the users of a submission. -/
def Submission.effect (s : Submission) (users : IdSet) (now : Timestamp)
    (current : SceneFingerprints) : Effect Submitted :=
  (current.submit s.claimed users now).map fun (outcome, record, after) =>
    (⟨outcome, record⟩, if outcome.isChange then some after else none)

/-- Takes out the users of a withdrawal. -/
def Retraction.effect (r : Retraction) (users : IdSet) (now : Timestamp)
    (current : SceneFingerprints) : Effect Retracted :=
  let (outcome, after) := current.retract r.fingerprint users now
  .ok (⟨outcome, after.get? r.fingerprint⟩, if outcome.isChange then some after else none)

/-- Replaces the fingerprints of the scene. -/
def Reconciliation.effect (r : Reconciliation) (now : Timestamp) (current : SceneFingerprints) :
    Effect Reconciled :=
  (current.reconcile r.desired r.acting now).map fun (summary, after) =>
    (⟨summary, after.records⟩, if summary.isChange then some after else none)

/-- Ends a change: the transaction is dropped, then the lock is given back. -/
def abandon (scene : Uuid) (result : Except CatalogError α) : Work α :=
  .ask (.call (.txDrop scene)) fun _ => .ask (.release scene) fun _ => .done result

/-- Ends a change that has nothing to write: the lock is given back, then the transaction is
dropped. -/
def leave (scene : Uuid) (result : Except CatalogError α) : Work α :=
  .ask (.release scene) fun _ => .ask (.call (.txDrop scene)) fun _ => .done result

/-- Saves and commits the new collection and gives the lock back. -/
def conclude (scene : Uuid) (after : SceneFingerprints) (result : α) : Work α :=
  .ask (.call (.txSave scene after.records)) fun saved =>
    match saved with
    | .error e => abandon scene (.error (.store e))
    | .ok () => .ask (.call (.txCommit scene)) fun committed =>
      match committed with
      | .error e => abandon scene (.error (.store e))
      | .ok () => .ask (.release scene) fun _ => .done (.ok result)

/-- Applies an effect to a scene under its lock. -/
def changeScene (scene : Uuid) (effect : SceneFingerprints → Effect α) : Work α :=
  .ask (.acquire scene) fun _ => .ask (.call (.sceneExists scene)) fun known =>
    match known with
    | .error e => .ask (.release scene) fun _ => .done (.error (.store e))
    | .ok false => .ask (.release scene) fun _ => .done (.error (.sceneNotFound scene))
    | .ok true => .ask (.call (.txLoad scene)) fun loaded =>
      match loaded with
      | .error e => abandon scene (.error (.store e))
      | .ok stored =>
        match effect (.ofRecords stored) with
        | .error e => leave scene (.error e)
        | .ok (result, none) => leave scene (.ok result)
        | .ok (result, some after) => conclude scene after result

/-- Submits a fingerprint; the list of named users is checked before anything else. -/
def Submission.run (s : Submission) (now : Timestamp) : Work Submitted :=
  match resolveUsers s.acting s.users with
  | .error e => .done (.error e)
  | .ok users => changeScene s.scene (s.effect users now)

/-- Withdraws from a fingerprint; the list of named users is checked before anything else. -/
def Retraction.run (r : Retraction) (now : Timestamp) : Work Retracted :=
  match resolveUsers r.acting r.users with
  | .error e => .done (.error e)
  | .ok users => changeScene r.scene (r.effect users now)

/-- Reconciles a scene; the lists of named users are checked before anything else. -/
def Reconciliation.run (r : Reconciliation) (now : Timestamp) : Work Reconciled :=
  if r.desired.any Edit.namesNobody then .done (.error .emptySubmitters)
  else changeScene r.scene (r.effect now)

/-- A call that changes a scene. -/
inductive Change where
  | submit (submission : Submission)
  | retract (retraction : Retraction)
  | reconcile (reconciliation : Reconciliation)
deriving DecidableEq

/-- The answer to a call that changes a scene. -/
inductive ChangeReply where
  | submitted (reply : Submitted)
  | retracted (reply : Retracted)
  | reconciled (reply : Reconciled)
deriving DecidableEq

namespace Change

def scene : Change → Uuid
  | .submit s => s.scene
  | .retract r => r.scene
  | .reconcile r => r.scene

def run (now : Timestamp) : Change → Work ChangeReply
  | .submit s => .submitted <$> s.run now
  | .retract r => .retracted <$> r.run now
  | .reconcile r => .reconciled <$> r.run now

end Change

end SceneCatalog
