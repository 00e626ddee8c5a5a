import SceneCatalog.Sql.Statement

/-!
A database that gives prepared rows and can refuse one statement, by its number. It shows what is
sent without a database behind it.
-/
namespace SceneCatalog.Sql

structure Script where
  sceneKnown : Bool
  records : List RecordRow
  sceneIds : List Uuid
  count : Int
  scenes : List SceneRow
  /-- The number that every inserted record gets. -/
  insertedId : Int
  /-- The statement that is refused, counted from 0, and the text of the refusal. -/
  refusal : Option (Nat × String)

namespace Script

/-- The rows for a statement; times come out as the database keeps them. -/
def rows (script : Script) : (s : Statement) → s.Rows
  | .sceneExists _ => script.sceneKnown
  | .loadRecords _ => script.records.map fun row =>
    { row with created := inMicroseconds row.created, updated := inMicroseconds row.updated }
  | .insertRecord _ _ => script.insertedId
  | .scenesWithFingerprints _ => script.sceneIds
  | .scenesWithHashes _ => script.sceneIds
  | .countScenes _ => script.count
  | .selectScenes _ _ _ => script.scenes.map fun row =>
    { row with created := inMicroseconds row.created }
  | .beginTx | .commit | .rollback | .readSnapshot | .lockScene _ | .deleteRecords _
  | .insertSubmitters _ _ | .ping => ()

/-- Answers a statement, where `sent` statements came before it. -/
def respond (script : Script) (s : Statement) (sent : Nat) : s.Reply × Nat :=
  match script.refusal with
  | some (number, text) =>
    if number = sent then (.error text, sent + 1) else (.ok (script.rows s), sent + 1)
  | none => (.ok (script.rows s), sent + 1)

end Script

end SceneCatalog.Sql
