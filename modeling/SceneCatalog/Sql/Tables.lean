import SceneCatalog.Sql.Statement

/-!
The tables of the database and what statements read from them. A condition is read in three-valued
logic, its values taken from what is bound to its parameters.
-/
namespace SceneCatalog.Sql

/-! ## Three-valued logic -/

/-- What a condition comes to for a row. A comparison with a missing value is unknown. -/
inductive Truth where
  | holds
  | fails
  | unknown
deriving DecidableEq

namespace Truth

/-- Whether a row passes, which it does not if that is unknown. -/
def passes : Truth → Bool
  | .holds => true
  | .fails | .unknown => false

def ofBool (b : Bool) : Truth := if b then .holds else .fails

def not : Truth → Truth
  | .holds => .fails
  | .fails => .holds
  | .unknown => .unknown

def or : Truth → Truth → Truth
  | .holds, _ | _, .holds => .holds
  | .fails, .fails => .fails
  | _, _ => .unknown

def and : Truth → Truth → Truth
  | .fails, _ | _, .fails => .fails
  | .holds, .holds => .holds
  | _, _ => .unknown

end Truth

section Comparisons

variable {α β : Type} [DecidableEq α]

/-- A test of two values that may be missing. -/
def compare (test : α → β → Bool) : Option α → Option β → Truth
  | some a, some b => .ofBool (test a b)
  | _, _ => .unknown

def equals : Option α → Option α → Truth := compare fun a b => decide (a = b)

/-- Whether one of the values of an array is the same. This fails for an empty array, whatever it is
asked of. -/
def equalsAny (x : Option α) : Option (List α) → Truth
  | some values => values.foldr (fun v rest => (equals x (some v)).or rest) .fails
  | none => .unknown

end Comparisons

/-! ## Values of parameters -/

/-- The value bound to the parameter with a number; parameters are numbered from 1. A parameter
without a value is missing, like one whose value is of another kind. -/
def bound (args : List Arg) (number : Nat) (kind : Arg → Option α) : Option α :=
  args[number - 1]?.bind kind

def Arg.text? : Arg → Option String
  | .text value => some value
  | _ => none

def Arg.int? : Arg → Option Int
  | .int value => some value
  | _ => none

def Arg.uuids? : Arg → Option (List Uuid)
  | .uuids values => some values
  | _ => none

/-! ## Tables -/

/-- A row of the table of scenes. -/
structure SceneEntry where
  id : Uuid
  title : Option String
  studio : Option Uuid
  created : Timestamp
deriving DecidableEq

/-- A row of the table of fingerprints with the rows of its users, which go when it goes. -/
structure RecordEntry where
  id : Int
  scene : Uuid
  row : RecordRow
deriving DecidableEq

/-- A row of fingerprints as it is given back, its users in order. -/
def RecordEntry.shown (e : RecordEntry) : RecordRow :=
  { e.row with submitters := e.row.submitters.mergeSort fun u v => decide (u ≤ v) }

/-- Rows of fingerprints as they are given back, in the order of their numbers. -/
def loaded (entries : List RecordEntry) : List RecordRow :=
  (entries.mergeSort fun a b => decide (a.id ≤ b.id)).map RecordEntry.shown

/-- The row that is inserted for a record, which has no users yet. -/
def RecordRow.inserted (record : Record) : RecordRow where
  algorithm := record.fingerprint.algorithm.name
  hash := record.fingerprint.hash
  duration := record.duration.toNat
  created := inMicroseconds record.created
  updated := inMicroseconds record.updated
  submitters := []

/-- The content of the database. -/
structure Tables where
  scenes : List SceneEntry
  performers : List (Uuid × Uuid)
  tags : List (Uuid × Uuid)
  records : List RecordEntry
deriving DecidableEq

namespace SceneEntry

/-- `ORDER BY s.created_at, s.id`. -/
def precedes (a b : SceneEntry) : Bool :=
  decide (a.created < b.created) || (a.created == b.created && decide (a.id ≤ b.id))

def inOrder (rows : List SceneEntry) : List SceneEntry := rows.mergeSort precedes

end SceneEntry

/-- What `LIMIT` and `OFFSET` leave of a result. -/
def limited (limit offset : Int) (rows : List α) : List α :=
  (rows.drop offset.toNat).take limit.toNat

namespace Tables

/-- The values that a scene is joined with. -/
def joined (t : Tables) : JoinTable → Uuid → List Uuid
  | .performers, scene => (t.performers.filter (·.1 = scene)).map (·.2)
  | .tags, scene => (t.tags.filter (·.1 = scene)).map (·.2)

/-- A row of scenes as it is given back. -/
def row (t : Tables) (s : SceneEntry) : SceneRow where
  id := s.id
  title := s.title
  studio := s.studio
  created := s.created
  performers := t.joined .performers s.id
  tags := t.joined .tags s.id

/-- What a condition comes to for a row, where `like` says which titles match a pattern and `first`
is the number of its first parameter. -/
def truth (t : Tables) (like : String → String → Bool) (args : List Arg) (s : SceneEntry)
    (first : Nat) : Condition → Truth
  | .titleLike _ => compare like (bound args first Arg.text?) s.title
  | .studioAny _ => equalsAny s.studio (bound args first Arg.uuids?)
  | .studioIsNull => .ofBool s.studio.isNone
  | .studioIsNotNull => .ofBool s.studio.isSome
  | .joinedAny table _ =>
    .ofBool ((t.joined table s.id).any fun v =>
      (equalsAny (some v) (bound args first Arg.uuids?)).passes)
  | .joinedCount table _ _ =>
    let counted := (t.joined table s.id).filter fun v =>
      (equalsAny (some v) (bound args first Arg.uuids?)).passes
    equals (some ((IdSet.ofList counted).size : Int)) (bound args (first + 1) Arg.int?)
  | .not c => (t.truth like args s first c).not
  | .or c d => (t.truth like args s first c).or (t.truth like args s (first + c.args.length) d)

/-- What conditions joined by `AND` come to, their parameters numbered from `first`. -/
def allTruth (t : Tables) (like : String → String → Bool) (args : List Arg) (s : SceneEntry)
    (first : Nat) : List Condition → Truth
  | [] => .holds
  | c :: rest =>
    (t.truth like args s first c).and (t.allTruth like args s (first + c.args.length) rest)

/-- The rows of scenes that pass the conditions. -/
def selected (t : Tables) (like : String → String → Bool) (args : List Arg)
    (conditions : List Condition) : List SceneEntry :=
  t.scenes.filter fun s => (t.allTruth like args s 1 conditions).passes

/-- The rows of fingerprints of a scene. -/
def of (t : Tables) (scene : Uuid) : List RecordEntry := t.records.filter (·.scene = scene)

/-- The rows of a scene as they are given back. -/
def recordRows (t : Tables) (scene : Uuid) : List RecordRow := loaded (t.of scene)

/-- The scenes that have a row passing a test, in order. -/
def scenesWith (t : Tables) (p : RecordRow → Bool) : List Uuid :=
  (SceneEntry.inOrder (t.scenes.filter fun s =>
    t.records.any fun e => decide (e.scene = s.id) && p e.row)).map (·.id)

end Tables

/-! ## Writing -/

/-- A change of the rows of fingerprints. -/
inductive Write where
  /-- Rows go, by their numbers. -/
  | remove (ids : List Int)
  | insert (entry : RecordEntry)
  /-- The row with that number gets more users. -/
  | join (id : Int) (users : List Uuid)
deriving DecidableEq

def RecordRow.withUsers (row : RecordRow) (users : List Uuid) : RecordRow :=
  { row with submitters := row.submitters ++ users }

/-- A row with more users, if it has the number. -/
def RecordEntry.join (id : Int) (users : List Uuid) (e : RecordEntry) : RecordEntry :=
  if e.id = id then { e with row := e.row.withUsers users } else e

@[simp] theorem RecordEntry.id_join (id : Int) (users : List Uuid) (e : RecordEntry) :
    (e.join id users).id = e.id := by
  unfold join
  split <;> rfl

@[simp] theorem RecordEntry.scene_join (id : Int) (users : List Uuid) (e : RecordEntry) :
    (e.join id users).scene = e.scene := by
  unfold join
  split <;> rfl

theorem RecordEntry.join_of_ne {id : Int} {e : RecordEntry} (h : e.id ≠ id) (users : List Uuid) :
    e.join id users = e := if_neg h

/-- The rows of fingerprints after a change. -/
def Write.apply (entries : List RecordEntry) : Write → List RecordEntry
  | .remove ids => entries.filter fun e => !ids.contains e.id
  | .insert entry => entries ++ [entry]
  | .join id users => entries.map (.join id users)

/-- The tables after changes one after another. -/
def Tables.writeAll (t : Tables) (writes : List Write) : Tables :=
  { t with records := writes.foldl Write.apply t.records }

end SceneCatalog.Sql
