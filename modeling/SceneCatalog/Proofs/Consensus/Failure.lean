import SceneCatalog.Proofs.Consensus.Course
import SceneCatalog.Proofs.Consensus.Linearization
import SceneCatalog.Proofs.Locks.Renaming

/-!
Changes that fail. Main statement: a change that comes upon a call that fails gives up with just
that error, and nothing that comes later can tell that it was ever made.
-/
namespace SceneCatalog

/-! ## Calls that fail -/

namespace MemoryStore

/-- Call number `n` fails, and this is the error that the catalog gives up with: the store refuses
the call, or it tells that there is no such scene. -/
inductive Fails (store : MemoryStore) (n : Nat) : StoreCall → CatalogError → Prop
  | refused {call : StoreCall} {e : StoreError} (refusal : store.refusal? n call = some e) :
      Fails store n call (.store e)
  | unknown {scene : Uuid} (willing : store.refusal? n (.sceneExists scene) = none)
      (missing : store.catalog.scene? scene = none) :
      Fails store n (.sceneExists scene) (.sceneNotFound scene)

variable {store final : MemoryStore} {i n : Nat} {call : StoreCall} {error : CatalogError}

theorem failure?_of_refusal {reply : call.Reply} {e : StoreError}
    (h : call.refusal? reply = some e) : call.failure? reply = some (.store e) := by
  cases call with
  | sceneExists scene =>
    match reply, h with
    | .error _, rfl => rfl
  | _ => simp [StoreCall.failure?, h]

/-- A call that fails is answered accordingly. -/
theorem Fails.failure? (h : store.Fails store.served call error) :
    call.failure? (store.respond i call).1 = some error := by
  cases h with
  | refused refusal => exact failure?_of_refusal ((refusal?_respond store i call).trans refusal)
  | @unknown scene willing missing =>
    have hr : store.refuses store.served (.sceneExists scene) = none := willing
    simp [respond, answer, hr, missing, StoreCall.failure?]

theorem Served.counted {store' : MemoryStore} (h : Served i store call store') :
    store'.served = store.served + 1 ∧ store'.refuses = store.refuses := by
  cases h <;> exact ⟨rfl, rfl⟩

/-- Whether a later call fails is settled before the calls in between. -/
theorem Served.fails {store' : MemoryStore} {earlier : StoreCall}
    (h : Served i store earlier store') (fails : store.Fails (store.served + (n + 1)) call error) :
    store'.Fails (store'.served + n) call error := by
  obtain ⟨hserved, hrefuses⟩ := h.counted
  obtain ⟨hscenes, hstaging⟩ := h.fixed
  have hnumber : store'.served + n = store.served + (n + 1) := by omega
  have hrefusal : ∀ m, store'.refusal? m = store.refusal? m := by
    intro m
    funext c
    unfold refusal?
    rw [hstaging, hrefuses]
  rw [hnumber]
  cases fails with
  | refused refusal => exact .refused (by rwa [hrefusal])
  | unknown willing missing =>
    refine .unknown (by rwa [hrefusal]) ?_
    rwa [Catalog.scene?, hscenes]

/-- The answer to a call of a run that fails. -/
theorem failure?_of_answers {made : List (Answered StoreCall StoreCall.Reply)}
    {reply : call.Reply} (answers : Answers (MemoryStore.respond i) store made final)
    (here : made[n]? = some ⟨call, reply⟩) (fails : store.Fails (store.served + n) call error) :
    call.failure? reply = some error := by
  induction made generalizing store n with
  | nil => cases here
  | cons a made ih =>
    obtain ⟨hreply, hrest⟩ := answers
    -- the calls before the one that fails are served, which brings it one call nearer
    cases n with
    | zero =>
      cases here
      have hreply : (store.respond i call).1 = reply := hreply
      rw [← hreply]
      exact fails.failure?
    | succ n => exact ih hrest here ((respond_served store i a.1).fails fails)

end MemoryStore

/-! ## Changes that come upon one -/

/-- A change that comes upon a call that fails gives up with its error: it makes no further call
but to drop its transaction, and stores nothing. -/
theorem Course.gives_up {α : Type} {scene : Uuid} {effect : SceneFingerprints → Effect α}
    {made : List (Answered StoreCall StoreCall.Reply)} {result : Except CatalogError α}
    {saved : Option SceneFingerprints} {n : Nat} {call : StoreCall} {reply : call.Reply}
    {error : CatalogError} (h : Course scene effect made result saved)
    (here : made[n]? = some ⟨call, reply⟩) (fails : call.failure? reply = some error) :
    result = .error error ∧ saved = none ∧ ∀ a ∈ made.drop (n + 1), a.1 = .txDrop scene := by
  -- by the place of the call in each course: where it fails, it is the last but for the drop
  cases h <;> rcases n with _ | _ | _ | _ | _ | n <;> cases here <;>
    simp [StoreCall.failure?, StoreCall.refusal?] at fails ⊢ <;> exact fails

namespace Workers

/-- A change that came upon a failing call as its call number `n` is over and has left no trace. -/
structure Traceless (store : MemoryStore) (n : Nat) (error : CatalogError) (failed : OverMemory) :
    Prop where
  /-- It gives up with the error. -/
  result : failed.results = [some (.error error)]
  /-- After the call that failed it only drops its transaction. -/
  silent : ∀ asked ∈ failed.asked.drop (n + 1), ∃ scene, asked = (0, .txDrop scene)
  /-- The store is as it was, with nothing staged, but for the number of calls. -/
  state : failed.state = { store with served := store.served + failed.asked.length }
  /-- The lock has been given back, and nothing of it is left. -/
  reclaimed : failed.locks.active = 0 ∧ failed.locks.mutexes = []
  /-- Calls that come later, and run side by side in any way, have the results that they have when
  the change was never made and the same calls to come are refused. -/
  later : ∀ {α : Type} (later : List (Running StoreCall StoreCall.Reply α)) (schedule : List Nat),
    let after := (start later failed.locks failed.state).runSchedule memory schedule
    let without := (start later ∅
      { store with served := store.served + failed.asked.length }).runSchedule memory schedule
    after.results = without.results ∧ after.state = without.state ∧ after.asked = without.asked

/-- What comes later does not notice a lock table that has been in use and is empty again. -/
theorem run_reclaimed {Call : Type} {Reply : Call → Type} {σ α : Type} {locks : LockTable}
    (h : locks.active = 0 ∧ locks.mutexes = []) (calls : List (Running Call Reply α)) (state : σ)
    (respond : Nat → (call : Call) → σ → Option (Reply call × σ)) (schedule : List Nat) :
    (start calls locks state).runSchedule respond schedule =
      ((start calls ∅ state).runSchedule respond schedule).shift locks.fresh := by
  obtain ⟨entries, mutexes, fresh⟩ := locks
  obtain ⟨hentries, rfl⟩ := h
  obtain rfl : entries = [] := List.length_eq_zero_iff.mp hentries
  have hstart : start calls ⟨[], [], fresh⟩ state =
      (start calls (∅ : LockTable) state).shift fresh := by
    simp [start, shift, Worker.shift, LockTable.shift, EmptyCollection.emptyCollection,
      LockTable.empty]
  rw [hstart, runSchedule_shift]

/-- A change that has run alone has the result of its transcript, and no lock is left in use. -/
theorem lone_change (change : Change) (now : Timestamp) (store : MemoryStore) :
    let w := (ofChanges [(change, now)] store).runSchedule memory (rounds 1)
    let t := Running.transcript (MemoryStore.respond 0) (change.run now : Work ChangeReply) store
    (w.results = [some t.result] ∧ w.state = t.state ∧ w.asked = t.asked.map fun a => (0, a.1)) ∧
      w.locks.active = 0 ∧ w.locks.mutexes = [] := by
  have ended : ((ofChanges [(change, now)] store).runSchedule memory (rounds 1)).Over :=
    completes (fun _ _ _ h => by cases h) store [(change, now)] []
  have exact : ((ofChanges [(change, now)] store).runSchedule memory (rounds 1)).Exact
      [(change, now)] :=
    ((agree_ofChanges [(change, now)] store).run (rounds 1)).exact
      (by rw [length_runSchedule, length_ofChanges])
  have active := exact.cleared ended
  refine ⟨lone_run (fun _ _ => rfl) (change.run now) ∅ store (rounds 1) ended, active, ?_⟩
  have sole := exact.sole
  rw [List.length_eq_zero_iff.mp active] at sole
  exact List.map_eq_nil_iff.mp sole

/-- **Failure atomicity.** Whichever call of a change fails, over a store that passes saves on at
once or stages them, the change gives up with the error of the call and leaves no trace. -/
theorem failure_atomicity (store : MemoryStore) (clean : store.staged = []) (change : Change)
    (now : Timestamp) {n : Nat} {call : StoreCall} {error : CatalogError}
    (reached : ((ofChanges [(change, now)] store).runSchedule memory (rounds 1)).asked[n]? =
      some (0, call))
    (fails : store.Fails (store.served + n) call error) :
    Traceless store n error ((ofChanges [(change, now)] store).runSchedule memory (rounds 1)) := by
  obtain ⟨⟨hresults, hstate, hasked⟩, reclaimed⟩ := lone_change change now store
  have hcourse := change.course now (MemoryStore.respond 0) store
  generalize (ofChanges [(change, now)] store).runSchedule memory (rounds 1) = failed at *
  generalize Running.transcript (MemoryStore.respond 0) (change.run now) store = t at *
  rw [hasked, List.getElem?_map, Option.map_eq_some_iff] at reached
  obtain ⟨⟨_, reply⟩, here, hcall⟩ := reached
  cases hcall
  rcases hcourse with ⟨e, -, rfl⟩ | ⟨effect, saved, -, course, answers⟩
  · -- a change that is refused before it asks anything has no call to fail
    cases here
  obtain ⟨hresult, rfl, hdrops⟩ :=
    course.gives_up here (MemoryStore.failure?_of_answers answers here fails)
  have hstate : failed.state = { store with served := store.served + failed.asked.length } := by
    rw [hstate, course.stores answers clean, hasked, List.length_map]
    rfl
  refine ⟨by rw [hresults, hresult], fun asked hmem => ?_, hstate, reclaimed, ?_⟩
  · rw [hasked, ← List.map_drop] at hmem
    obtain ⟨a, ha, rfl⟩ := List.mem_map.mp hmem
    exact ⟨change.scene, by rw [hdrops a ha]⟩
  · intro α later schedule
    rw [run_reclaimed reclaimed, hstate]
    exact ⟨results_shift _ _, rfl, rfl⟩

/-- A store that stages saves and refuses its fourth call, with one record in one scene. -/
def brokenCommit : MemoryStore :=
  let catalog := (Catalog.ofScenes [.bare (.ofNat 0) ⟨0, 0⟩]).save (.ofNat 0)
    [.ofUser ⟨.sample, 10⟩ (.ofNat 1) ⟨1, 0⟩]
  { MemoryStore.of catalog true with
    refuses := fun n _ => if n = 3 then some (.query "disk full") else none }

/-- A change that was to empty the scene, and whose commit is refused. -/
theorem failure_atomicity_commit :
    Traceless brokenCommit 3 (.store (.query "disk full"))
      ((ofChanges [(.reconcile ⟨.ofNat 0, [], .ofNat 1⟩, ⟨2, 0⟩)] brokenCommit).runSchedule
        memory (rounds 1)) := by
  have reached : ((ofChanges [(.reconcile ⟨.ofNat 0, [], .ofNat 1⟩, ⟨2, 0⟩)]
      brokenCommit).runSchedule memory (rounds 1)).asked[3]? = some (0, .txCommit (.ofNat 0)) :=
    rfl
  exact failure_atomicity brokenCommit rfl _ _ reached (.refused rfl)

end Workers

end SceneCatalog
