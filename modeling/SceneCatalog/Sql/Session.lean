import SceneCatalog.Ask
import SceneCatalog.Sql.Statement
import SceneCatalog.StoreCall

/-!
A store on a database: each call of the store is carried out by statements. The transaction of a
scene begins with the first load or save in it, which also takes the lock of the row of the scene;
it ends with a commit, or is rolled back when it is dropped or its commit fails.
-/
namespace SceneCatalog.Sql

/-- A call in progress that sends statements. -/
abbrev Talk := Running Statement Statement.Reply

/-- Sends a statement. -/
def send (s : Statement) : Talk (Except String s.Rows) := .ask (.call s) .done

/-- Sends a statement, where a refusal is a failed query. -/
def query (s : Statement) : ExceptT StoreError Talk s.Rows := do
  match ← (send s : Talk _) with
  | .ok rows => return rows
  | .error text => throw (.query text)

/-- Ends a transaction whose effects are not wanted. What the database says to that is ignored. -/
def rollBack : Talk Unit := do
  let _ ← send .rollback

/-- Carries `body` out in a transaction of its own. -/
def inTransaction (body : ExceptT StoreError Talk α) : ExceptT StoreError Talk α := do
  query .beginTx
  let result ← ExceptT.mk (do return .ok (← body.run))
  let finished : Except StoreError α ← match result with
    | .error e => pure (.error e)
    | .ok a => ExceptT.mk do
      match ← (query .commit).run with
      | .error e => return .ok (.error e)
      | .ok () => return .ok (.ok a)
  match finished with
  | .ok a => return a
  | .error e => do
    ExceptT.lift rollBack
    throw e

/-- The greatest duration that the database holds. -/
def maxDuration : Nat := 2147483647

/-- The greatest number of rows that can be passed over. -/
def maxOffset : Nat := 9223372036854775807

/-- Inserts records in order, each followed by its users. -/
def insertRecords (scene : Uuid) : List Record → ExceptT StoreError Talk Unit
  | [] => return ()
  | record :: rest => do
    if maxDuration < record.duration.toNat then
      throw (.serialization s!"duration {record.duration} too large")
    let id ← query (.insertRecord scene record)
    query (.insertSubmitters id record.submitters.toList)
    insertRecords scene rest

/-- Replaces the records of a scene. Their users go with them. -/
def replaceRecords (scene : Uuid) (records : List Record) : ExceptT StoreError Talk Unit := do
  query (.deleteRecords scene)
  insertRecords scene records

/-- The records of a scene. -/
def loadRecords (scene : Uuid) : ExceptT StoreError Talk (List Record) := do
  let rows ← query (.loadRecords scene)
  ExceptT.mk (.done (rows.mapM RecordRow.toRecord))

/-- Begins the transaction of a scene unless it is open. -/
def openTransaction (isOpen : Bool) (scene : Uuid) : ExceptT StoreError Talk Unit := do
  if isOpen then return ()
  query .beginTx
  match ← ExceptT.lift (query (.lockScene scene)).run with
  | .ok () => return ()
  | .error e => do
    ExceptT.lift rollBack
    throw e

/-- A page of the scenes that pass a filter, and how many pass it, both read from one state. -/
def findScenes (filter : CompiledFilter) (page : Page) :
    ExceptT StoreError Talk (List Scene × UInt64) :=
  inTransaction do
    let conditions := Condition.ofFilter filter
    query .readSnapshot
    let count ← query (.countScenes conditions)
    let rows ← query (.selectScenes conditions page.perPage.toNat
      (min page.offset.toNat maxOffset))
    return (rows.map SceneRow.toScene, UInt64.ofNat count.toNat)

/-- Carries out a step of the transaction of a scene, which is open afterwards unless it could not
be begun. -/
def inSceneTransaction (isOpen : Bool) (scene : Uuid) (step : ExceptT StoreError Talk α) :
    Talk (Except StoreError α × Bool) := do
  match ← (openTransaction isOpen scene).run with
  | .error e => return (.error e, false)
  | .ok () => return (← step.run, true)

/-- Carries out a call of the store. The flag says whether the transaction of the scene that is
worked on is open. -/
def carryOut (call : StoreCall) (isOpen : Bool) : Talk (call.Reply × Bool) :=
  match call with
  | .sceneExists scene => do return (← (query (.sceneExists scene)).run, isOpen)
  | .load scene => do return (← (loadRecords scene).run, isOpen)
  | .save scene records => do
    return (← (inTransaction (replaceRecords scene records)).run, isOpen)
  | .scenesWithFingerprints wanted => do
    return (← (query (.scenesWithFingerprints wanted)).run, isOpen)
  | .scenesWithHashes wanted => do return (← (query (.scenesWithHashes wanted)).run, isOpen)
  | .findScenes filter page => do return (← (findScenes filter page).run, isOpen)
  | .checkHealth => do
    match ← send .ping with
    | .ok () => return (.ok (), isOpen)
    | .error text => return (.error (.connection text), isOpen)
  | .txLoad scene => inSceneTransaction isOpen scene (loadRecords scene)
  | .txSave scene records => inSceneTransaction isOpen scene (replaceRecords scene records)
  | .txCommit _ =>
    if isOpen then do
      match ← (query .commit).run with
      | .ok () => return (.ok (), false)
      | .error e => do
        rollBack
        return (.error e, false)
    else return (.ok (), false)
  | .txDrop _ => do
    if isOpen then rollBack
    return ((), false)

/-- The statements by which a question is answered. Locks of scenes are asked for as they are. -/
def converseAbout : (q : Ask StoreCall) → Bool → Talk (q.Answer StoreCall.Reply × Bool)
  | .acquire scene, isOpen => .ask (.acquire scene) fun _ => .done ((), isOpen)
  | .release scene, isOpen => .ask (.release scene) fun _ => .done ((), isOpen)
  | .call call, isOpen => carryOut call isOpen

/-- The statements by which a call of the catalog is carried out. -/
def converse (work : Running StoreCall StoreCall.Reply α) : Talk (α × Bool) :=
  work.carriedBy converseAbout false

end SceneCatalog.Sql
