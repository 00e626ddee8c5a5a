import SceneCatalog.Sql.Condition
import SceneCatalog.SceneFingerprints

/-!
The statements that are sent to the database, their texts and bound values, and the rows that come
back.
-/
namespace SceneCatalog.Sql

/-- A row of fingerprints with the users of the record. -/
structure RecordRow where
  algorithm : String
  hash : String
  duration : Int
  created : Timestamp
  updated : Timestamp
  submitters : List Uuid
deriving DecidableEq

/-- A row of scenes with the values it is joined with. -/
structure SceneRow where
  id : Uuid
  title : Option String
  studio : Option Uuid
  created : Timestamp
  performers : List Uuid
  tags : List Uuid
deriving DecidableEq

/-- The record that a row stands for. A row that stands for none is an error of the stored data. -/
def RecordRow.toRecord (row : RecordRow) : Except StoreError Record :=
  match Fingerprint.parse row.algorithm row.hash with
  | .error e => .error (.serialization e.message)
  | .ok fingerprint =>
    if row.duration < 0 then .error (.serialization s!"negative duration {row.duration}")
    else
      match Record.ofParts fingerprint (UInt32.ofNat row.duration.toNat)
          (IdSet.ofList row.submitters) row.created row.updated with
      | .error e => .error (.serialization e.message)
      | .ok record => .ok record

def SceneRow.toScene (row : SceneRow) : Scene where
  id := row.id
  title := row.title
  studio := row.studio
  performers := IdSet.ofList row.performers
  tags := IdSet.ofList row.tags
  created := row.created

/-- The seconds from 1970 to 2000, where the database starts to count. -/
def databaseEpoch : Int := 946684800

/-- A time as the database keeps it: in whole microseconds, the rest cut off towards the year
2000. -/
def inMicroseconds (t : Timestamp) : Timestamp :=
  let micros := (((t.seconds - databaseEpoch) * 1000000000 + t.nanos).tdiv 1000)
  ⟨micros.fdiv 1000000 + databaseEpoch, (micros.fmod 1000000).toNat * 1000⟩

/-- A statement with its values. -/
inductive Statement where
  | beginTx
  | commit
  | rollback
  /-- Makes the transaction read one unchanging state and write nothing. -/
  | readSnapshot
  | sceneExists (scene : Uuid)
  /-- Takes the lock of the row of a scene. -/
  | lockScene (scene : Uuid)
  | loadRecords (scene : Uuid)
  | deleteRecords (scene : Uuid)
  /-- Inserts a record without its users. -/
  | insertRecord (scene : Uuid) (record : Record)
  /-- Inserts the users of the record with that number. -/
  | insertSubmitters (id : Int) (users : List Uuid)
  | scenesWithFingerprints (wanted : List Fingerprint)
  | scenesWithHashes (wanted : List String)
  | countScenes (conditions : List Condition)
  | selectScenes (conditions : List Condition) (limit offset : Int)
  /-- Asks for nothing. -/
  | ping

namespace Statement

/-- What the database gives back for a statement. -/
abbrev Rows : Statement → Type
  | .sceneExists _ => Bool
  | .loadRecords _ => List RecordRow
  | .insertRecord _ _ => Int
  | .scenesWithFingerprints _ => List Uuid
  | .scenesWithHashes _ => List Uuid
  | .countScenes _ => Int
  | .selectScenes _ _ _ => List SceneRow
  | _ => Unit

/-- The answer to a statement: its rows, or the text of the refusal. -/
abbrev Reply (s : Statement) : Type := Except String s.Rows

def text : Statement → String
  | .beginTx => "BEGIN"
  | .commit => "COMMIT"
  | .rollback => "ROLLBACK"
  | .readSnapshot => "SET TRANSACTION ISOLATION LEVEL REPEATABLE READ, READ ONLY"
  | .sceneExists _ => "SELECT EXISTS (SELECT 1 FROM scenes WHERE id = $1)"
  | .lockScene _ => "SELECT 1 FROM scenes WHERE id = $1 FOR UPDATE"
  | .loadRecords _ =>
    "SELECT f.algorithm, f.hash, f.duration, f.created_at, f.updated_at, " ++
      "ARRAY( SELECT s.user_id FROM scene_fingerprint_submitters s " ++
      "WHERE s.fingerprint_id = f.id ORDER BY s.user_id ) AS submitters " ++
      "FROM scene_fingerprints f WHERE f.scene_id = $1 ORDER BY f.id"
  | .deleteRecords _ => "DELETE FROM scene_fingerprints WHERE scene_id = $1"
  | .insertRecord _ _ =>
    "INSERT INTO scene_fingerprints " ++
      "(scene_id, algorithm, hash, duration, created_at, updated_at) " ++
      "VALUES ($1, $2, $3, $4, $5, $6) RETURNING id"
  | .insertSubmitters _ _ =>
    "INSERT INTO scene_fingerprint_submitters (fingerprint_id, user_id) " ++
      "SELECT $1, unnest($2::uuid[])"
  | .scenesWithFingerprints _ =>
    "SELECT s.id FROM scenes s WHERE EXISTS ( SELECT 1 FROM scene_fingerprints f " ++
      "JOIN unnest($1::text[], $2::text[]) AS q(algorithm, hash) " ++
      "ON f.algorithm = q.algorithm AND f.hash = q.hash WHERE f.scene_id = s.id ) " ++
      "ORDER BY s.created_at, s.id"
  | .scenesWithHashes _ =>
    "SELECT s.id FROM scenes s WHERE EXISTS ( SELECT 1 FROM scene_fingerprints f " ++
      "WHERE f.scene_id = s.id AND f.hash = ANY($1) ) ORDER BY s.created_at, s.id"
  | .countScenes conditions =>
    "SELECT COUNT(*) FROM scenes s" ++ Condition.whereClause conditions
  | .selectScenes conditions _ _ =>
    let next := (Condition.allArgs conditions).length + 1
    "SELECT s.id, s.title, s.studio_id, s.created_at, " ++
      "ARRAY(SELECT p.performer_id FROM scene_performers p WHERE p.scene_id = s.id) " ++
      "AS performer_ids, " ++
      "ARRAY(SELECT t.tag_id FROM scene_tags t WHERE t.scene_id = s.id) AS tag_ids " ++
      "FROM scenes s" ++ Condition.whereClause conditions ++
      s!" ORDER BY s.created_at, s.id LIMIT ${next} OFFSET ${next + 1}"
  | .ping => "SELECT 1"

def args : Statement → List Arg
  | .sceneExists scene => [.uuid scene]
  | .lockScene scene => [.uuid scene]
  | .loadRecords scene => [.uuid scene]
  | .deleteRecords scene => [.uuid scene]
  | .insertRecord scene record =>
    [.uuid scene, .text record.fingerprint.algorithm.name, .text record.fingerprint.hash,
      .int record.duration.toNat, .time (inMicroseconds record.created),
      .time (inMicroseconds record.updated)]
  | .insertSubmitters id users => [.int id, .uuids users]
  | .scenesWithFingerprints wanted =>
    [.texts (wanted.map (·.algorithm.name)), .texts (wanted.map (·.hash))]
  | .scenesWithHashes wanted => [.texts wanted]
  | .countScenes conditions => Condition.allArgs conditions
  | .selectScenes conditions limit offset =>
    Condition.allArgs conditions ++ [.int limit, .int offset]
  | _ => []

end Statement

end SceneCatalog.Sql
