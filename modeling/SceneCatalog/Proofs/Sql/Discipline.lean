import SceneCatalog.Proofs.Locks.Discipline
import SceneCatalog.Replicas

/-!
Carrying a change out on a database leaves its lock discipline as it is: to carry a call of the
store out, only statements are sent, and no lock of a catalog is asked for or given back.
-/
namespace SceneCatalog

section Discipline

variable {Call : Type} {Reply : Call → Type} {α β : Type} {scene : Uuid}
  {d : Running Call Reply α} {f : α → Running Call Reply β}

/-- What calls of the surroundings may come before holds of what comes after a call that asks for
no lock. -/
theorem Running.Free.bind_of {P : Running Call Reply β → Prop}
    (calls : ∀ c (next : Reply c → Running Call Reply β), (∀ reply, P (next reply)) →
      P (.ask (.call c) next))
    (h : Running.Free d) (after : ∀ a, P (f a)) : P (d.bind f) := by
  induction d with
  | done a => exact after a
  | ask q next ih =>
    cases q with
    | acquire s => exact absurd h id
    | release s => exact absurd h id
    | call c => exact calls c _ fun reply => ih reply (h reply)

theorem Running.Free.bind (h : Running.Free d) (after : ∀ a, Running.Free (f a)) :
    Running.Free (d.bind f) := h.bind_of (fun _ _ hnext => hnext) after

theorem Running.Free.bind_holding (h : Running.Free d)
    (after : ∀ a, Running.Holding scene (f a)) : Running.Holding scene (d.bind f) :=
  h.bind_of (fun _ _ hnext => hnext) after

theorem Running.Holding.bind (h : Running.Holding scene d) (after : ∀ a, Running.Free (f a)) :
    Running.Holding scene (d.bind f) := by
  induction d with
  | done a => exact absurd h id
  | ask q next ih =>
    cases q with
    | acquire s => exact absurd h id
    | release s => exact ⟨h.1, h.2.bind after⟩
    | call c => exact fun reply => ih reply (h reply)

theorem Running.Asking.bind (h : Running.Asking scene d) (after : ∀ a, Running.Free (f a)) :
    Running.Asking scene (d.bind f) := by
  cases d with
  | done a => exact absurd h id
  | ask q next =>
    cases q with
    | acquire s => exact ⟨h.1, h.2.bind after⟩
    | release s => exact absurd h id
    | call c => exact absurd h id

end Discipline

namespace Sql

/-! ## Calls of the store -/

section Steps

variable {α β : Type}

/-- A step that may fail, followed by another. -/
theorem free_step {x : ExceptT StoreError Talk α} {f : α → ExceptT StoreError Talk β}
    (h : Running.Free x.run) (after : ∀ a, Running.Free (f a).run) :
    Running.Free (x >>= f).run := by
  refine Running.Free.bind h fun result => ?_
  cases result with
  | error e => exact trivial
  | ok a => exact after a

theorem free_query (s : Statement) : Running.Free (query s).run := by
  intro reply
  cases reply with
  | error text => exact trivial
  | ok rows => exact trivial

theorem free_inTransaction {body : ExceptT StoreError Talk α} (h : Running.Free body.run) :
    Running.Free (inTransaction body).run := by
  refine free_step (free_query .beginTx) fun _ => Running.Free.bind (h.bind fun _ => trivial) ?_
  rintro (e | e | a)
  · exact trivial
  · exact fun _ => trivial
  · intro reply
    cases reply with
    | error text => exact fun _ => trivial
    | ok rows => exact trivial

theorem free_insertRecords (scene : Uuid) (records : List Record) :
    Running.Free (insertRecords scene records).run := by
  induction records with
  | nil => exact trivial
  | cons record records ih =>
    rw [insertRecords]
    split
    · exact trivial
    · exact free_step (free_query _) fun id => free_step (free_query _) fun _ => ih

theorem free_replaceRecords (scene : Uuid) (records : List Record) :
    Running.Free (replaceRecords scene records).run :=
  free_step (free_query _) fun _ => free_insertRecords scene records

theorem free_loadRecords (scene : Uuid) : Running.Free (loadRecords scene).run :=
  free_step (free_query _) fun _ => trivial

theorem free_openTransaction (isOpen : Bool) (scene : Uuid) :
    Running.Free (openTransaction isOpen scene).run := by
  cases isOpen with
  | true => exact trivial
  | false =>
    refine free_step (free_query _) fun _ reply => ?_
    cases reply with
    | error text => exact fun _ => trivial
    | ok rows => exact trivial

theorem free_inSceneTransaction (isOpen : Bool) (scene : Uuid) {step : ExceptT StoreError Talk α}
    (h : Running.Free step.run) : Running.Free (inSceneTransaction isOpen scene step) := by
  refine (free_openTransaction isOpen scene).bind fun result => ?_
  cases result with
  | error e => exact trivial
  | ok _ => exact h.bind fun _ => trivial

end Steps

theorem free_findScenes (filter : CompiledFilter) (page : Page) :
    Running.Free (findScenes filter page).run :=
  free_inTransaction <| free_step (free_query _) fun _ => free_step (free_query _) fun _ =>
    free_step (free_query _) fun _ => trivial

theorem free_carryOut (call : StoreCall) (isOpen : Bool) : Running.Free (carryOut call isOpen) := by
  have done : ∀ {α : Type} {x : Talk α}, Running.Free x →
      Running.Free (x.bind fun a => .done (a, isOpen)) := fun h => h.bind fun _ => trivial
  cases call with
  | sceneExists scene => exact done (free_query _)
  | load scene => exact done (free_loadRecords scene)
  | save scene records => exact done (free_inTransaction (free_replaceRecords scene records))
  | scenesWithFingerprints wanted => exact done (free_query _)
  | scenesWithHashes wanted => exact done (free_query _)
  | findScenes filter page => exact done (free_findScenes filter page)
  | checkHealth =>
    intro reply
    cases reply with
    | error text => exact trivial
    | ok rows => exact trivial
  | txLoad scene => exact free_inSceneTransaction isOpen scene (free_loadRecords scene)
  | txSave scene records =>
    exact free_inSceneTransaction isOpen scene (free_replaceRecords scene records)
  | txCommit scene =>
    cases isOpen with
    | false => exact trivial
    | true =>
      intro reply
      cases reply with
      | error text => exact fun _ => trivial
      | ok rows => exact trivial
  | txDrop scene =>
    cases isOpen with
    | false => exact trivial
    | true => exact fun _ => trivial

/-! ## Whole calls -/

section Converse

variable {α : Type} {scene : Uuid} {d : Running StoreCall StoreCall.Reply α}

theorem free_converse (h : Running.Free d) (isOpen : Bool) :
    Running.Free (d.carriedBy converseAbout isOpen) := by
  induction d generalizing isOpen with
  | done a => exact trivial
  | ask q next ih =>
    cases q with
    | acquire s => exact absurd h id
    | release s => exact absurd h id
    | call c => exact (free_carryOut c isOpen).bind fun answer => ih answer.1 (h answer.1) answer.2

theorem holding_converse (h : Running.Holding scene d) (isOpen : Bool) :
    Running.Holding scene (d.carriedBy converseAbout isOpen) := by
  induction d generalizing isOpen with
  | done a => exact absurd h id
  | ask q next ih =>
    cases q with
    | acquire s => exact absurd h id
    | release s => exact ⟨h.1, free_converse h.2 isOpen⟩
    | call c =>
      exact (free_carryOut c isOpen).bind_holding fun answer => ih answer.1 (h answer.1) answer.2

theorem asking_converse (h : Running.Asking scene d) (isOpen : Bool) :
    Running.Asking scene (d.carriedBy converseAbout isOpen) := by
  cases d with
  | done a => exact absurd h id
  | ask q next =>
    cases q with
    | acquire s => exact ⟨h.1, holding_converse h.2 isOpen⟩
    | release s => exact absurd h id
    | call c => exact absurd h id

end Converse
end Sql

/-- A change on a database keeps the lock discipline of a change. -/
theorem Change.talk_asking_or_free (change : Change) (now : Timestamp) :
    Running.Asking change.scene (change.talk now) ∨ Running.Free (change.talk now) :=
  (change.asking_or_free now).imp (fun h => (Sql.asking_converse h false).bind fun _ => trivial)
    fun h => (Sql.free_converse h false).bind fun _ => trivial

end SceneCatalog
