import SceneCatalog.Proofs.Consensus.Store
import SceneCatalog.Proofs.Locks.Transcript

/-!
The ways in which a change can go, said once: which calls it makes, what it is answered, which
result this leads to, and whether it stores something in the end. Over a store kept in memory, a
change stores just that, and leaves everything else as it was.
-/
namespace SceneCatalog

/-- The error with which a call is refused. -/
def StoreCall.refusal? : (call : StoreCall) → call.Reply → Option StoreError
  | .sceneExists _, .error e => some e
  | .load _, .error e => some e
  | .save _ _, .error e => some e
  | .scenesWithFingerprints _, .error e => some e
  | .scenesWithHashes _, .error e => some e
  | .findScenes _ _, .error e => some e
  | .checkHealth, .error e => some e
  | .txLoad _, .error e => some e
  | .txSave _ _, .error e => some e
  | .txCommit _, .error e => some e
  | _, _ => none

/-- The error with which the catalog gives up when a call is answered: the call is refused, or the
scene is not known. -/
def StoreCall.failure? : (call : StoreCall) → call.Reply → Option CatalogError
  | .sceneExists scene, .ok false => some (.sceneNotFound scene)
  | call, reply => (call.refusal? reply).map .store

/-- Whether a call changes nothing, whatever its answer. -/
def StoreCall.reads : StoreCall → Bool
  | .save _ _ | .txSave _ _ | .txCommit _ | .txDrop _ => false
  | _ => true

/-! ## Courses -/

section Courses

variable {σ α : Type} (scene : Uuid) (effect : SceneFingerprints → Effect α)

/-- The courses of a change of a scene: its calls with the answers they get, its result, and the
collection that is stored in the end, if there is one. -/
inductive Course : List (Answered StoreCall StoreCall.Reply) → Except CatalogError α →
    Option SceneFingerprints → Prop
  | unreachable (e : StoreError) :
      Course [⟨.sceneExists scene, .error e⟩] (.error (.store e)) none
  | unknown : Course [⟨.sceneExists scene, .ok false⟩] (.error (.sceneNotFound scene)) none
  | unloaded (e : StoreError) :
      Course [⟨.sceneExists scene, .ok true⟩, ⟨.txLoad scene, .error e⟩, ⟨.txDrop scene, ()⟩]
        (.error (.store e)) none
  | refused {stored e} (h : effect (.ofRecords stored) = .error e) :
      Course [⟨.sceneExists scene, .ok true⟩, ⟨.txLoad scene, .ok stored⟩, ⟨.txDrop scene, ()⟩]
        (.error e) none
  | unchanged {stored result} (h : effect (.ofRecords stored) = .ok (result, none)) :
      Course [⟨.sceneExists scene, .ok true⟩, ⟨.txLoad scene, .ok stored⟩, ⟨.txDrop scene, ()⟩]
        (.ok result) none
  | unsaved {stored result after} (h : effect (.ofRecords stored) = .ok (result, some after))
      (e : StoreError) :
      Course [⟨.sceneExists scene, .ok true⟩, ⟨.txLoad scene, .ok stored⟩,
        ⟨.txSave scene after.records, .error e⟩, ⟨.txDrop scene, ()⟩] (.error (.store e)) none
  | uncommitted {stored result after} (h : effect (.ofRecords stored) = .ok (result, some after))
      (e : StoreError) :
      Course [⟨.sceneExists scene, .ok true⟩, ⟨.txLoad scene, .ok stored⟩,
        ⟨.txSave scene after.records, .ok ()⟩, ⟨.txCommit scene, .error e⟩, ⟨.txDrop scene, ()⟩]
        (.error (.store e)) none
  | written {stored result after} (h : effect (.ofRecords stored) = .ok (result, some after)) :
      Course [⟨.sceneExists scene, .ok true⟩, ⟨.txLoad scene, .ok stored⟩,
        ⟨.txSave scene after.records, .ok ()⟩, ⟨.txCommit scene, .ok ()⟩] (.ok result) (some after)

/-- Whatever the store answers, a change of a scene takes one of the courses. -/
theorem changeScene_course (respond : (call : StoreCall) → σ → call.Reply × σ) (state : σ) :
    let t := Running.transcript respond (changeScene scene effect) state
    ∃ saved, Course scene effect t.asked t.result saved := by
  simp only [changeScene, Running.transcript]
  generalize hknown : respond (.sceneExists scene) state = known
  obtain ⟨e | _ | _, state⟩ := known
  · exact ⟨none, .unreachable e⟩
  · exact ⟨none, .unknown⟩
  simp only [Running.transcript]
  generalize hloaded : respond (.txLoad scene) state = loaded
  obtain ⟨e | stored, state⟩ := loaded
  · exact ⟨none, .unloaded e⟩
  cases h : effect (.ofRecords stored) with
  | error e =>
    simp only [h, leave, Running.transcript]
    exact ⟨none, .refused h⟩
  | ok outcome =>
    obtain ⟨result, _ | after⟩ := outcome
    · simp only [h, leave, Running.transcript]
      exact ⟨none, .unchanged h⟩
    simp only [h, conclude, Running.transcript]
    generalize hsaved : respond (.txSave scene after.records) state = saved
    obtain ⟨e | _, state⟩ := saved
    · exact ⟨none, .unsaved h e⟩
    simp only [Running.transcript]
    generalize hcommitted : respond (.txCommit scene) state = committed
    obtain ⟨e | _, state⟩ := committed
    · exact ⟨none, .uncommitted h e⟩
    · exact ⟨some after, .written h⟩

/-- A change is refused before it asks anything, or takes one of the courses of its plan. -/
theorem Change.course (change : Change) (now : Timestamp)
    (respond : (call : StoreCall) → σ → call.Reply × σ) (state : σ) :
    let t := Running.transcript respond (change.run now : Work ChangeReply) state
    (∃ e, change.plan now = .error e ∧ t = ⟨.error e, state, []⟩) ∨
      ∃ effect saved, change.plan now = .ok effect ∧
        Course change.scene effect t.asked t.result saved ∧
        Answers respond state t.asked t.state := by
  rw [Change.run_eq]
  cases change.plan now with
  | error e => exact Or.inl ⟨e, rfl, rfl⟩
  | ok effect =>
    obtain ⟨saved, h⟩ := changeScene_course change.scene effect respond state
    exact Or.inr ⟨effect, saved, rfl, h, transcript_answers _ _ _⟩

end Courses

/-! ## The store of a change that runs alone -/

namespace MemoryStore

variable {store final : MemoryStore} {i : Nat} {scene : Uuid}

/-- The error with which the store refuses a call that comes as number `n`. A transaction that
passes its saves on has nothing left to commit, and no transaction fails to be dropped. -/
def refusal? (store : MemoryStore) (n : Nat) : StoreCall → Option StoreError
  | .txDrop _ => none
  | .txCommit scene => if store.staging then store.refuses n (.txCommit scene) else none
  | call => store.refuses n call

theorem refusal?_respond (store : MemoryStore) (i : Nat) (call : StoreCall) :
    call.refusal? (store.respond i call).1 = store.refusal? store.served call := by
  cases hr : store.refuses store.served call <;> cases call <;> cases hs : store.staging <;>
    simp [respond, answer, perform, refusal?, StoreCall.refusal?, hr, hs]

/-- A refused call leaves nothing behind but that it was made. -/
theorem respond_of_refusal {call : StoreCall} {e : StoreError}
    (h : call.refusal? (store.respond i call).1 = some e) :
    (store.respond i call).2 = { store with served := store.served + 1 } := by
  cases hr : store.refuses store.served call <;> cases call <;> cases hs : store.staging <;>
    simp [respond, answer, perform, StoreCall.refusal?, hr, hs] at h ⊢

theorem state_of_refused_save {records : List Record} {e : StoreError}
    (h : (store.respond i (.txSave scene records)).1 = .error e) :
    (store.respond i (.txSave scene records)).2 = { store with served := store.served + 1 } :=
  respond_of_refusal (by rw [h]; rfl)

theorem state_of_refused_commit {e : StoreError}
    (h : (store.respond i (.txCommit scene)).1 = .error e) :
    (store.respond i (.txCommit scene)).2 = { store with served := store.served + 1 } :=
  respond_of_refusal (by rw [h]; rfl)

/-- A transaction that passes its saves on does not fail to commit. -/
theorem staging_of_refused_commit {e : StoreError}
    (h : (store.respond i (.txCommit scene)).1 = .error e) : store.staging = true := by
  by_contra hs
  simp [respond, hs] at h

/-- A call that only reads leaves nothing behind but that it was made. -/
theorem respond_of_reads (store : MemoryStore) (i : Nat) {call : StoreCall}
    (reads : call.reads = true) :
    (store.respond i call).2 = { store with served := store.served + 1 } := by
  cases hr : store.refuses store.served call <;> cases call <;>
    simp [respond, answer, hr, StoreCall.reads] at reads ⊢

theorem state_of_exists (store : MemoryStore) (i : Nat) (scene : Uuid) :
    (store.respond i (.sceneExists scene)).2 = { store with served := store.served + 1 } :=
  respond_of_reads store i rfl

theorem state_of_load (store : MemoryStore) (i : Nat) (scene : Uuid) :
    (store.respond i (.txLoad scene)).2 = { store with served := store.served + 1 } :=
  respond_of_reads store i rfl

/-- A save is passed on, or waits for the commit. -/
theorem state_of_save {records : List Record}
    (h : (store.respond i (.txSave scene records)).1 = .ok ()) :
    (store.respond i (.txSave scene records)).2 =
      if store.staging then
        { store with staged := store.staged ++ [(i, scene, records)], served := store.served + 1 }
      else
        { store with
          catalog := store.catalog.save scene records, served := store.served + 1 } := by
  cases hr : store.refuses store.served (.txSave scene records) with
  | some e => simp [respond, perform, hr] at h
  | none =>
    simp only [respond, perform, hr]

/-- A commit publishes the saves that wait. -/
theorem state_of_commit (h : (store.respond i (.txCommit scene)).1 = .ok ()) :
    (store.respond i (.txCommit scene)).2 =
      if store.staging then { store.publish i with served := store.served + 1 }
      else { store with served := store.served + 1 } := by
  cases hr : store.refuses store.served (.txCommit scene) <;> cases hs : store.staging <;>
    simp [respond, perform, publish, unstage, hr, hs] at h ⊢

end MemoryStore

/-- **What a change leaves behind.** When nothing was staged, the store is the one from before,
with the saved collection in the place of the stored list of the scene if there is one. -/
theorem Course.stores {α : Type} {scene : Uuid} {effect : SceneFingerprints → Effect α}
    {made : List (Answered StoreCall StoreCall.Reply)} {result : Except CatalogError α}
    {saved : Option SceneFingerprints} {store final : MemoryStore} {i : Nat}
    (h : Course scene effect made result saved)
    (answers : Answers (MemoryStore.respond i) store made final) (clean : store.staged = []) :
    final = { store with
      catalog := saved.elim store.catalog fun after => store.catalog.save scene after.records
      served := store.served + made.length } := by
  obtain ⟨catalog, staging, staged, served, refuses⟩ := store
  obtain rfl : staged = [] := clean
  cases h with
  | unreachable e =>
    obtain ⟨-, rfl⟩ := answers
    exact MemoryStore.state_of_exists _ i scene
  | unknown =>
    obtain ⟨-, rfl⟩ := answers
    exact MemoryStore.state_of_exists _ i scene
  | unloaded e =>
    obtain ⟨-, -, -, rfl⟩ := answers
    simp only [MemoryStore.state_of_exists, MemoryStore.state_of_load]
    rfl
  | refused h =>
    obtain ⟨-, -, -, rfl⟩ := answers
    simp only [MemoryStore.state_of_exists, MemoryStore.state_of_load]
    rfl
  | unchanged h =>
    obtain ⟨-, -, -, rfl⟩ := answers
    simp only [MemoryStore.state_of_exists, MemoryStore.state_of_load]
    rfl
  | unsaved h e =>
    obtain ⟨-, -, hsave, -, rfl⟩ := answers
    simp only [MemoryStore.state_of_exists, MemoryStore.state_of_load] at hsave ⊢
    rw [MemoryStore.state_of_refused_save hsave]
    rfl
  | uncommitted h e =>
    obtain ⟨-, -, hsave, hcommit, -, rfl⟩ := answers
    simp only [MemoryStore.state_of_exists, MemoryStore.state_of_load] at hsave hcommit ⊢
    rw [MemoryStore.state_of_save hsave] at hcommit ⊢
    rw [MemoryStore.state_of_refused_commit hcommit]
    -- only a transaction that stages its saves can be refused its commit
    cases staging with
    | true => simp [MemoryStore.respond, MemoryStore.unstage]
    | false => cases MemoryStore.staging_of_refused_commit hcommit
  | written h =>
    obtain ⟨-, -, hsave, hcommit, rfl⟩ := answers
    simp only [MemoryStore.state_of_exists, MemoryStore.state_of_load] at hsave hcommit ⊢
    rw [MemoryStore.state_of_save hsave] at hcommit ⊢
    rw [MemoryStore.state_of_commit hcommit]
    cases staging with
    | true => simp [MemoryStore.publish, MemoryStore.unstage]
    | false => simp

end SceneCatalog
