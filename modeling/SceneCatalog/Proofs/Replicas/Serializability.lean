import SceneCatalog.Proofs.Consensus.Serial
import SceneCatalog.Proofs.Replicas.Progress

/-!
Changes in several catalogs over one database. Main statement: whatever the order in which their
statements come, every change has the reply, and every scene the records, that there would be if the
changes of the scene had run alone one after another in the order in which they took the lock of
its row; and the changes come to their end.
-/
namespace SceneCatalog

namespace Sql.Database

variable {db db' db'' : Database} {s : Uuid} {final final' : List RecordRow}

/-! ## One after another -/

/-- A database after changes that have run alone on it, one after another. -/
def inTurn (db : Database) (calls : List (Change × Timestamp)) : Database :=
  calls.foldl (fun db call => (db.alone (call.1.talk call.2)).state.2) db

theorem inTurn_snoc (db : Database) (calls : List (Change × Timestamp))
    (call : Change × Timestamp) :
    db.inTurn (calls ++ [call]) = ((db.inTurn calls).alone (call.1.talk call.2)).state.2 := by
  simp [inTurn]

/-- Whether a scene is known. -/
def knows (db : Database) (s : Uuid) : Bool := db.tables.scenes.any (·.id = s)

/-- **A change that runs alone** does what it makes of the rows of its scene. -/
theorem alone_talk (rested : Rested db) (change : Change) (now : Timestamp) :
    let t := db.alone (change.talk now)
    let after := change.onRows (db.knows change.scene) now (db.tables.recordRows change.scene)
    t.result = after.1 ∧ Leaves change.scene after.2 db t.state.2 := by
  obtain ⟨hresult, hstate, -⟩ := run_respondAlone (answer 0) (change.talk now) ∅ db
  obtain ⟨hresult', hleaves⟩ := opens_transcript rested (change.talk_opens _ now)
  exact ⟨hresult.trans hresult', hstate ▸ hleaves⟩

theorem Leaves.refl (rested : Rested db) (s : Uuid) :
    Leaves s (db.tables.recordRows s) db db := by
  refine ⟨rested, rfl, fun s' => ?_⟩
  split
  · next hs => rw [hs]
  · rfl

theorem Leaves.trans (h : Leaves s final db db') (h' : Leaves s final' db' db'') :
    Leaves s final' db db'' := by
  refine ⟨h'.rested, h'.scenes.trans h.scenes, fun s' => ?_⟩
  rw [h'.rows, h.rows]
  split <;> rfl

/-- What a change leaves that runs alone after others in its scene. -/
theorem Leaves.alone {call : Change × Timestamp} (h : Leaves call.1.scene final db db') :
    let after := call.1.onRows (db.knows call.1.scene) call.2 final
    let t := db'.alone (call.1.talk call.2)
    t.result = after.1 ∧ Leaves call.1.scene after.2 db t.state.2 := by
  have known : db'.knows call.1.scene = db.knows call.1.scene := by rw [knows, h.scenes, knows]
  have rows := h.rows call.1.scene
  rw [if_pos rfl] at rows
  obtain ⟨hresult, leaves⟩ := alone_talk h.rested call.1 call.2
  rw [known, rows] at hresult leaves
  exact ⟨hresult, h.trans leaves⟩

theorem Leaves.same (h : Leaves s (db.tables.recordRows s) db db') (s' : Uuid) :
    db'.tables.recordRows s' = db.tables.recordRows s' := by
  rw [h.rows]
  split
  · next hs => rw [hs]
  · rfl

/-- Changes one after another leave nobody connected, and the scenes as they are. -/
theorem rested_inTurn (rested : Rested db) (calls : List (Change × Timestamp)) :
    Rested (db.inTurn calls) ∧ (db.inTurn calls).tables.scenes = db.tables.scenes := by
  induction calls using List.reverseRecOn with
  | nil => exact ⟨rested, rfl⟩
  | append_singleton calls call ih =>
    rw [inTurn_snoc]
    obtain ⟨-, leaves⟩ := alone_talk ih.1 call.1 call.2
    exact ⟨leaves.rested, leaves.scenes.trans ih.2⟩

end Sql.Database

namespace Replicas

open Sql Database Workers

variable {calls : List (Change × Timestamp)} {db : Database} {i : Nat} {call : Change × Timestamp}

/-- Changes in several catalogs over one database, each with the time at which it happens. -/
def ofChanges (calls : List (Change × Timestamp)) (db : Database) :
    Replicas Statement Statement.Reply Database (Except CatalogError ChangeReply) :=
  start (calls.map fun call => call.1.talk call.2) db

/-- Replies and rows are those of the changes of each scene made alone, one after another. -/
structure Serializable (db : Database) (calls : List (Change × Timestamp))
    (r : Replicas Statement Statement.Reply Database (Except CatalogError ChangeReply)) : Prop where
  /-- Those that take the lock of the row of a scene are calls of the scene, and take it once. -/
  order : ∀ scene, (lockOrder r.asked scene).Nodup ∧
    ∀ i ∈ lockOrder r.asked scene, isOf calls scene i
  /-- A call that is over has the reply that it has after those that had the lock before it. -/
  replies : ∀ (i : Nat) (call : Change × Timestamp) (reply : Except CatalogError ChangeReply),
    calls[i]? = some call → r.results[i]? = some (some reply) →
      let before := (lockOrder r.asked call.1.scene).takeWhile (· ≠ i)
      reply = ((db.inTurn (callsAt calls before)).alone (call.1.talk call.2)).result
  /-- A call that is over without the lock has its reply wherever it runs, and leaves no trace. -/
  apart : ∀ (i : Nat) (call : Change × Timestamp) (reply : Except CatalogError ChangeReply),
    calls[i]? = some call → r.results[i]? = some (some reply) →
      i ∉ lockOrder r.asked call.1.scene → ∀ others,
        let t := (db.inTurn others).alone (call.1.talk call.2)
        reply = t.result ∧
          ∀ scene, t.state.2.tables.recordRows scene = (db.inTurn others).tables.recordRows scene
  /-- When all calls are over, the rows of every scene are what its calls leave. -/
  stored : r.Over → ∀ scene, r.state.tables.recordRows scene =
    (db.inTurn (callsAt calls (lockOrder r.asked scene))).tables.recordRows scene

/-! ## What the changes are about -/

/-- The plan of changes on a database. -/
def planOf (calls : List (Change × Timestamp)) (db : Database) :
    Plan (Except CatalogError ChangeReply) where
  scene := sceneOf calls
  scenes := db.tables.scenes
  outcome i rows := (calls[i]?).elim (.error .emptySubmitters, rows) fun call =>
    call.1.onRows (db.knows call.1.scene) call.2 rows
  first := db.tables.recordRows

theorem outcome_planOf (hc : calls[i]? = some call) (rows : List RecordRow) :
    (planOf calls db).outcome i rows =
      call.1.onRows (db.knows call.1.scene) call.2 rows := by
  simp [planOf, hc]

theorem outcome_of_none (hc : calls[i]? = none) (rows : List RecordRow) :
    ((planOf calls db).outcome i rows).2 = rows := by
  simp [planOf, hc]

theorem callsAt_snoc (calls : List (Change × Timestamp)) (order : List Nat) (i : Nat) :
    callsAt calls (order ++ [i]) = callsAt calls order ++ (calls[i]?).toList := by
  rw [callsAt, List.filterMap_append]
  cases h : calls[i]? <;> simp [callsAt, h]

theorem tracks_ofChanges (rested : Rested db) (calls : List (Change × Timestamp)) :
    (planOf calls db).Tracks (ofChanges calls db) := by
  refine Plan.tracks_start rested rfl rfl fun i d hd => ?_
  rw [List.getElem?_map, Option.map_eq_some_iff] at hd
  obtain ⟨call, hc, rfl⟩ := hd
  have hscene : (planOf calls db).scene i = call.1.scene := sceneOf_eq hc
  have houtcome : (planOf calls db).outcome i =
      call.1.onRows (db.knows call.1.scene) call.2 := funext (outcome_planOf hc)
  rw [hscene, houtcome]
  exact call.1.talk_opens _ call.2

theorem agree_ofChanges (calls : List (Change × Timestamp)) (db : Database) (home : Nat → Nat) :
    Agree (sceneOf calls) home (.error .emptySubmitters) (ofChanges calls db) := by
  refine agree_start (fun i d hd => ?_) db
  rw [List.getElem?_map, Option.map_eq_some_iff] at hd
  obtain ⟨call, hc, rfl⟩ := hd
  rw [sceneOf_eq hc]
  exact call.1.talk_asking_or_free call.2

/-- What the calls of a scene leave one after another. -/
theorem leaves_inTurn (rested : Rested db) {s : Uuid} (order : List Nat)
    (mine : ∀ i ∈ order, sceneOf calls i = s) :
    Leaves s ((planOf calls db).left s order) db (db.inTurn (callsAt calls order)) := by
  induction order using List.reverseRecOn with
  | nil => exact Leaves.refl rested s
  | append_singleton order i ih =>
    have leaves := ih fun j hj => mine j (List.mem_append_left _ hj)
    rw [callsAt_snoc, Plan.left_snoc]
    cases hc : calls[i]? with
    | none =>
      rw [outcome_of_none hc, Option.toList_none, List.append_nil]
      exact leaves
    | some call =>
      have hs : call.1.scene = s :=
        (sceneOf_eq hc).symm.trans (mine i (List.mem_append_right _ List.mem_cons_self))
      subst hs
      rw [Option.toList_some, inTurn_snoc, outcome_planOf hc]
      exact leaves.alone.2

/-! ## Runs -/

/-- Only workers that are there make calls. -/
theorem asked_lt (home : Nat → Nat) (calls : List (Change × Timestamp)) (db : Database)
    (schedule : List Nat) :
    let r := (ofChanges calls db).runSchedule home respond schedule
    r.workers.length = calls.length ∧ ∀ asked ∈ r.asked, asked.1 < calls.length := by
  refine runSchedule_keeps (P := fun r => r.workers.length = calls.length ∧
    ∀ asked ∈ r.asked, asked.1 < calls.length) (fun r i h => ?_) schedule
      ⟨by simp [ofChanges, start], nofun⟩
  refine ⟨(length_turn respond (r.inCatalog (home i)) i).trans h.1, ?_⟩
  cases turn_move home respond r i with
  | stays rests state asked => exact asked ▸ h.2
  | passes here after others state asked => exact asked ▸ h.2
  | called here answer after others asked =>
    obtain ⟨worker, hw, -⟩ := Option.map_eq_some_iff.mp here
    obtain ⟨hi, -⟩ := List.getElem?_eq_some_iff.mp hw
    intro a ha
    rw [asked] at ha
    rcases List.mem_append.mp ha with ha | ha
    · exact h.2 a ha
    · rw [List.mem_singleton.mp ha, ← h.1]
      exact hi

variable {r : Replicas Statement Statement.Reply Database (Except CatalogError ChangeReply)}

theorem Plan.Tracks.serial (h : (planOf calls db).Tracks r) (rested : Rested db)
    (present : ∀ asked ∈ r.asked, asked.1 < calls.length) : Serializable db calls r := by
  have members : ∀ scene, ∀ i ∈ lockOrder r.asked scene, sceneOf calls i = scene := h.members
  refine ⟨fun scene => ⟨h.nodup scene, fun i hi => ?_⟩, ?_, ?_, ?_⟩
  · have hscene := members scene i hi
    obtain ⟨statement, hasked, -⟩ := mem_lockOrder.mp hi
    have hc := List.getElem?_eq_getElem (present _ hasked)
    rw [sceneOf_eq hc] at hscene
    simp [isOf, hc, hscene]
  · intro i call reply hc hreply before
    have hscene : (planOf calls db).scene i = call.1.scene := sceneOf_eq hc
    have leaves := leaves_inTurn rested (s := call.1.scene) before fun j hj =>
      members _ j ((List.takeWhile_sublist _).subset hj)
    have hresult := h.result (rest?_of_results hreply)
    rw [hscene, outcome_planOf hc] at hresult
    exact hresult.trans leaves.alone.1.symm
  · intro i call reply hc hreply fresh others
    have hscene : (planOf calls db).scene i = call.1.scene := sceneOf_eq hc
    obtain ⟨rested', scenes⟩ := rested_inTurn rested others
    have known : (db.inTurn others).knows call.1.scene = db.knows call.1.scene := by
      rw [knows, scenes, knows]
    have apart := h.apart (rest?_of_results hreply) (hscene ▸ fresh)
    obtain ⟨hresult, leaves⟩ := alone_talk rested' call.1 call.2
    rw [known, ← outcome_planOf hc, apart] at hresult leaves
    exact ⟨hresult.symm, leaves.same⟩
  · intro ended scene
    have leaves := leaves_inTurn rested (lockOrder r.asked scene) (members scene)
    rw [leaves.rows, if_pos rfl]
    exact h.stored ended scene

/-- The database keeps to the plan, and the lock tables agree with the workers. -/
def Sound (calls : List (Change × Timestamp)) (db : Database) (home : Nat → Nat)
    (r : Replicas Statement Statement.Reply Database (Except CatalogError ChangeReply)) : Prop :=
  (planOf calls db).Tracks r ∧ Agree (sceneOf calls) home (.error .emptySubmitters) r

theorem Sound.turn {home : Nat → Nat} (h : Sound calls db home r) (i : Nat) :
    Sound calls db home (r.turn home respond i) :=
  ⟨h.1.move (turn_move home respond r i), h.2.turn i⟩

/-- **Catalogs over one database might as well be one.** Changes run side by side, call `i` in the
catalog `home i`. In every state of every run, each reply is that of the changes of the scene made
alone, one after another in the order in which they took the lock of its row; when all are over, so
are the rows of every scene; and every run can be brought to that end. -/
theorem serializable (rested : Rested db) (home : Nat → Nat) (calls : List (Change × Timestamp))
    (schedule : List Nat) :
    Serializable db calls ((ofChanges calls db).runSchedule home respond schedule) ∧
      ∃ more, ((ofChanges calls db).runSchedule home respond (schedule ++ more)).Over := by
  have sound : Sound calls db home ((ofChanges calls db).runSchedule home respond schedule) :=
    runSchedule_keeps (fun r i h => h.turn i) schedule
      ⟨tracks_ofChanges rested calls, agree_ofChanges calls db home⟩
  refine ⟨sound.1.serial rested (asked_lt home calls db schedule).2, ?_⟩
  obtain ⟨more, ended⟩ := exists_over (fun r i h => h.turn i)
    (fun r h idle => h.1.over_of_idle h.2 idle) sound
  exact ⟨more, by rwa [runSchedule_append]⟩

/-- A database that has one scene and no records. -/
def oneScene : Database :=
  .atRest (fun _ _ => false) ⟨[⟨.ofNat 1, none, none, ⟨0, 0⟩⟩], [], [], []⟩ 1

/-- Two users who submit the same fingerprint. -/
def twoUsers : List (Change × Timestamp) :=
  let claimed : Claimed := ⟨⟨.oshash, "0ff00ff00ff00ff0", by decide⟩, 10⟩
  [(.submit ⟨.ofNat 1, claimed, .ofNat 1, none⟩, ⟨1, 0⟩),
    (.submit ⟨.ofNat 1, claimed, .ofNat 2, none⟩, ⟨2, 0⟩)]

/-- Two catalogs take turns; both submissions count. -/
theorem serializable_twoUsers :
    let schedule := (List.replicate 24 [0, 1]).flatten
    let r := (ofChanges twoUsers oneScene).runSchedule id respond schedule
    Rested oneScene ∧ Serializable oneScene twoUsers r ∧
      (∃ more, ((ofChanges twoUsers oneScene).runSchedule id respond (schedule ++ more)).Over) ∧
      lockOrder r.asked (.ofNat 1) = [0, 1] ∧
        r.state.tables.records.map (·.row.submitters) = [[.ofNat 1, .ofNat 2]] := by
  intro schedule r
  have rested : Rested oneScene := ⟨⟨fun _ => .ofNat 1, nofun⟩, fun _ => rfl, fun _ => rfl⟩
  obtain ⟨serial, ends⟩ := serializable rested id twoUsers schedule
  exact ⟨rested, serial, ends, by decide +kernel, by decide +kernel⟩

end Replicas
end SceneCatalog
