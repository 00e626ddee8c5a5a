import SceneCatalog.Sql.Session
import SceneCatalog.Sql.Tables
import SceneCatalog.Workers

/-!
A database that carries statements out. Each statement comes over a connection, which has at most
one transaction. What a transaction writes is seen by nobody else until it commits, and all of it
from then on; a statement sees what is committed when it is carried out and what its own transaction
has written, unless the transaction reads from a snapshot. The lock of a row of scenes is kept until
the transaction that took it ends, and whoever else wants it has to wait.
-/
namespace SceneCatalog.Sql

/-- The scene whose row a statement locks. -/
def Statement.locks? : Statement → Option Uuid
  | .lockScene scene => some scene
  | _ => none

/-- A transaction in progress. -/
structure Transaction where
  /-- What it reads from, if it is to see nothing that is committed later. -/
  snapshot : Option Tables
  writes : List Write
deriving DecidableEq

structure Database where
  /-- Which titles match a pattern, which its locale decides. -/
  like : String → String → Bool
  /-- What is committed. -/
  tables : Tables
  /-- The number of the next row of fingerprints. It is used up even if the row is rolled back. -/
  nextId : Int
  /-- The transactions of the connections. -/
  transactions : Nat → Option Transaction
  /-- The connections whose transactions hold the locks of rows of scenes. -/
  rowLocks : Uuid → Option Nat

namespace Database

/-- A database that nobody is connected with. -/
def atRest (like : String → String → Bool) (tables : Tables) (nextId : Int) : Database :=
  ⟨like, tables, nextId, fun _ => none, fun _ => none⟩

/-- What a statement of a connection sees. -/
def view (db : Database) (i : Nat) : Tables :=
  match db.transactions i with
  | none => db.tables
  | some t => (t.snapshot.getD db.tables).writeAll t.writes

def setTransaction (db : Database) (i : Nat) (t : Option Transaction) : Database :=
  { db with transactions := fun j => if j = i then t else db.transactions j }

/-- Begins a transaction unless the connection has one. -/
def begin (db : Database) (i : Nat) : Database :=
  db.setTransaction i ((db.transactions i).getD ⟨none, []⟩)

/-- Makes the transaction of a connection read what is committed now. -/
def takeSnapshot (db : Database) (i : Nat) : Database :=
  db.setTransaction i ((db.transactions i).map fun t => { t with snapshot := some db.tables })

/-- Ends the transaction of a connection, which gives its locks back. -/
def finish (db : Database) (i : Nat) : Database :=
  { db.setTransaction i none with
    rowLocks := fun s => if db.rowLocks s = some i then none else db.rowLocks s }

/-- Publishes what the transaction of a connection has written, and ends it. -/
def commit (db : Database) (i : Nat) : Database :=
  { db.finish i with
    tables := db.tables.writeAll ((db.transactions i).elim [] Transaction.writes) }

/-- Writes in the transaction of a connection. Without one, what is written is committed at once. -/
def write (db : Database) (i : Nat) (w : Write) : Database :=
  match db.transactions i with
  | none => { db with tables := db.tables.writeAll [w] }
  | some t => db.setTransaction i (some { t with writes := t.writes ++ [w] })

/-- Takes the lock of a row of scenes, if there is such a row. Outside a transaction it is given
back at once. -/
def lockRow (db : Database) (i : Nat) (scene : Uuid) : Database :=
  if (db.transactions i).isSome ∧ (db.view i).scenes.any (·.id = scene) then
    { db with rowLocks := fun s => if s = scene then some i else db.rowLocks s }
  else db

/-- Inserts a row of fingerprints without users. -/
def insertRecord (db : Database) (i : Nat) (scene : Uuid) (record : Record) : Database :=
  { db.write i (.insert ⟨db.nextId, scene, .inserted record⟩) with nextId := db.nextId + 1 }

/-- The rows that a statement of a connection gives back, and the database afterwards. -/
def perform (i : Nat) (s : Statement) (db : Database) : s.Rows × Database :=
  match s with
  | .beginTx => ((), db.begin i)
  | .commit => ((), db.commit i)
  | .rollback => ((), db.finish i)
  | .readSnapshot => ((), db.takeSnapshot i)
  | .sceneExists scene => ((db.view i).scenes.any (·.id = scene), db)
  | .lockScene scene => ((), db.lockRow i scene)
  | .loadRecords scene => ((db.view i).recordRows scene, db)
  | .deleteRecords scene =>
    ((), db.write i (.remove (((db.view i).of scene).map (·.id))))
  | .insertRecord scene record => (db.nextId, db.insertRecord i scene record)
  | .insertSubmitters id users => ((), db.write i (.join id users))
  | .scenesWithFingerprints wanted =>
    ((db.view i).scenesWith fun row =>
      wanted.any fun f => f.algorithm.name = row.algorithm ∧ f.hash = row.hash, db)
  | .scenesWithHashes wanted => ((db.view i).scenesWith fun row => wanted.contains row.hash, db)
  | .countScenes conditions =>
    (((db.view i).selected db.like (Statement.countScenes conditions).args conditions).length, db)
  | .selectScenes conditions limit offset =>
    let args := (Statement.selectScenes conditions limit offset).args
    (limited limit offset ((SceneEntry.inOrder ((db.view i).selected db.like args conditions)).map
      (db.view i).row), db)
  | .ping => ((), db)

/-- Answers a statement of a connection. No statement is refused. -/
def answer (i : Nat) (s : Statement) (db : Database) : s.Reply × Database :=
  (.ok (db.perform i s).1, (db.perform i s).2)

/-- Whether a statement has to wait: it wants the lock of a row that another connection has. -/
def mustWait (db : Database) (i : Nat) (s : Statement) : Bool :=
  (s.locks?.bind db.rowLocks).any fun j => decide (j ≠ i)

/-- Answers a statement of a connection unless it has to wait. -/
def respond (i : Nat) (s : Statement) (db : Database) : Option (s.Reply × Database) :=
  if db.mustWait i s then none else some (db.answer i s)

/-- Runs a call over connection 0 when nobody else sends anything. -/
def alone {α : Type} (db : Database) (talk : Talk α) :
    Dialogue.Transcript (Ask Statement) α (LockTable × Database) :=
  Dialogue.run (respondAlone (answer 0)) talk (∅, db)

end Database

end SceneCatalog.Sql
