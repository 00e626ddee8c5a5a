import SceneCatalog.Sql.Database

/-!
What the tables refuse. A row of fingerprints has a number of its own, belongs to a scene that is
there and to a known hash family, has no negative duration, and is the only one of its scene for its
fingerprint. A row of users belongs to a row of fingerprints that is there and names a user whom the
row does not have yet.
-/
namespace SceneCatalog.Sql

/-- A rule that the tables keep. -/
inductive Constraint where
  | recordNumber
  | recordScene
  | recordAlgorithm
  | recordDuration
  | recordFingerprint
  | submitterRecord
  | submitterOnce
deriving DecidableEq

/-- The rule that a write would break. -/
def Tables.broken? (t : Tables) : Write → Option Constraint
  | .remove _ => none
  | .insert e =>
    if !(Algorithm.all.map (·.name)).contains e.row.algorithm then some .recordAlgorithm
    else if e.row.duration < 0 then some .recordDuration
    else if t.records.any fun other => other.id = e.id then some .recordNumber
    else if (t.of e.scene).any fun other =>
      other.row.algorithm = e.row.algorithm ∧ other.row.hash = e.row.hash then
        some .recordFingerprint
    else if t.scenes.any fun s => s.id = e.scene then none
    else some .recordScene
  | .join id users =>
    match t.records.find? fun e => e.id = id with
    | none => some .submitterRecord
    | some e => if (e.row.submitters ++ users).Nodup then none else some .submitterOnce

namespace Database

/-- The rule that a statement of a connection would break. -/
def broken? (db : Database) (i : Nat) : Statement → Option Constraint
  | .insertRecord scene record =>
    (db.view i).broken? (.insert ⟨db.nextId, scene, .inserted record⟩)
  | .insertSubmitters id users => (db.view i).broken? (.join id users)
  | _ => none

/-- Answers a statement of a connection, and refuses one that would break a rule, where `refusal`
gives the texts of refusals. A statement that is refused writes nothing. -/
def checked (refusal : Constraint → String) (i : Nat) (s : Statement) (db : Database) :
    s.Reply × Database :=
  match db.broken? i s with
  | some rule => (.error (refusal rule), db)
  | none => db.answer i s

end Database

end SceneCatalog.Sql
