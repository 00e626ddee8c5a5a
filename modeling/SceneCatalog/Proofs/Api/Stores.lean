import SceneCatalog.Proofs.Api.Refusals
import SceneCatalog.Proofs.Sql.Durations

/-!
A service over a database, beside one over a store in memory. Main statement: whatever requests come
in, nothing fails to be saved for what the store cannot represent but by a request that states a
duration which is too long for a database. Every other request that is accepted over the store in
memory is accepted over the database, whatever came in before it: what a store accepts does not
depend on what has been recorded in it.
-/
namespace SceneCatalog

open Sql Sql.Database

/-! ## Answers of a store -/

section Answers

variable {Call : Type} {Reply : Call → Type} {σ : Type}

/-- The answers that calls get one after another. -/
def answersTo (respond : (call : Call) → σ → Reply call × σ) :
    σ → List Call → List (Answered Call Reply)
  | _, [] => []
  | state, call :: calls =>
    ⟨call, (respond call state).1⟩ :: answersTo respond (respond call state).2 calls

theorem Answers.answersTo_eq {respond : (call : Call) → σ → Reply call × σ} {state final : σ}
    {made : List (Answered Call Reply)} (h : Answers respond state made final) :
    answersTo respond state (made.map (·.1)) = made := by
  induction made generalizing state with
  | nil => rfl
  | cons a made ih =>
    obtain ⟨hreply, hrest⟩ := h
    have hhead : (⟨a.1, (respond a.1 state).1⟩ : Answered Call Reply) = a := by rw [hreply]
    exact congrArg₂ List.cons hhead (ih hrest)

end Answers

/-! ## Calls of the catalog -/

theorem StoreCall.kind?_ne_save_of_looks {call : StoreCall} (looks : call.looks = true) :
    call.kind? ≠ some .save := by
  cases call with
  | save scene records => cases looks
  | txSave scene records => cases looks
  | _ => nofun

namespace CatalogCall

variable {c : CatalogCall} {now : Timestamp}

/-- Everything but a change only looks things up. -/
theorem only_looks (other : ∀ change, c ≠ .change change) (now : Timestamp) :
    Dialogue.Only Ask.looks (c.run now) := by
  cases c with
  | change change => exact absurd rfl (other change)
  | sceneRecords scene => exact sceneRecords_looks scene
  | findByFingerprints wanted => exact findByFingerprints_looks wanted
  | findByHashes raws => exact findByHashes_looks raws
  | queryScenes filter spec max => exact queryScenes_looks filter spec max

/-- A call about a scene that succeeds has been told that the scene is known. -/
theorem known_of_ok {scene : Uuid} (about : c.scene? = some scene) {σ : Type}
    {respond : (call : StoreCall) → σ → call.Reply × σ} {state : σ} {a : c.Reply}
    (h : (Running.transcript respond (c.run now) state).result = .ok a) :
    (respond (.sceneExists scene) state).1 = .ok true := by
  rcases c.judges now with ⟨e, -, hrun⟩ | blames
  · rw [hrun] at h
    cases h
  obtain ⟨hfails, -⟩ := blames.transcript respond state
  -- whether the scene is known is the first question, and no answer has been a failure
  have hfirst : (⟨.sceneExists scene, (respond (.sceneExists scene) state).1⟩ :
      Answered StoreCall StoreCall.Reply) ∈
        (Running.transcript respond (c.run now) state).asked := by
    cases c with
    | change change =>
      obtain rfl := Option.some.inj about
      simp only [run, change.run_eq] at blames ⊢
      split
      · rename_i e planned
        rw [planned] at blames
        exact blames.elim
      · exact List.mem_cons_self
    | sceneRecords s =>
      obtain rfl := Option.some.inj about
      exact List.mem_cons_self
    | _ => cases about
  generalize (respond (.sceneExists scene) state).1 = reply at hfirst ⊢
  obtain e | _ | _ := reply
  · cases h.symm.trans ((hfails (.store e)).mpr ⟨_, hfirst, rfl⟩)
  · cases h.symm.trans ((hfails (.sceneNotFound scene)).mpr ⟨_, hfirst, rfl⟩)
  · rfl

end CatalogCall

/-! ## One call over two stores -/

/-- A store in memory and a database that know the same scenes. Nothing is staged in the one, and
the rows of the other stand for records. -/
structure MemoryStore.Beside (store : MemoryStore) (db : Database) : Prop where
  clean : store.staged = []
  readable : ∀ scene, Readable (db.tables.recordRows scene)
  scenes : ∀ scene,
    (store.catalog.scene? scene).isSome = db.tables.scenes.any fun s => decide (s.id = scene)

section Calls

variable {store : MemoryStore} {db : Database}

theorem MemoryStore.known_of_answer {scene : Uuid} {i : Nat}
    (h : (store.respond i (.sceneExists scene)).1 = .ok true) :
    (store.catalog.scene? scene).isSome = true := by
  cases hr : store.refuses store.served (.sceneExists scene) <;>
    simp [respond, answer, hr] at h
  exact h

/-- A change that is accepted in memory is accepted by the database, unless it states a duration
that is too long. -/
theorem Change.accepted (beside : store.Beside db) (sound : db.Sound) {change : Change}
    {now : Timestamp}
    (short : ∀ f duration, change.stated? f = some duration → duration.toNat ≤ maxDuration)
    {a : ChangeReply}
    (h : (Running.transcript (MemoryStore.respond 0) (change.run now) store).result = .ok a) :
    ∃ b, (Running.transcript (storeOn (answer 0)) (change.run now) (db, false)).result = .ok b := by
  have hknown : (store.respond 0 (.sceneExists change.scene)).1 = .ok true :=
    CatalogCall.known_of_ok (c := .change change) rfl h
  have known : db.tables.scenes.any (fun s => decide (s.id = change.scene)) = true :=
    (beside.scenes _).symm.trans (MemoryStore.known_of_answer hknown)
  rcases change.course now (MemoryStore.respond 0) store with ⟨e, -, ht⟩ |
    ⟨effect, saved, planned, -, -⟩
  · cases h.symm.trans (congrArg Dialogue.Transcript.result ht)
  · obtain ⟨hresult, -, -⟩ := change_keeps sound change now
    rw [known] at hresult
    obtain ⟨reply, hreply⟩ := Change.onRows_succeeds planned (sound.fits change.scene)
      (beside.readable change.scene) short
    exact ⟨reply, hresult.trans hreply⟩

/-- A look-up that is accepted in memory is accepted by the database. -/
theorem CatalogCall.accepted (beside : store.Beside db) (rested : Rested db) {call : CatalogCall}
    (other : ∀ change, call ≠ .change change) {now : Timestamp} {a : call.Reply}
    (h : (Running.transcript (MemoryStore.respond 0) (call.run now) store).result = .ok a) :
    ∃ b, (Running.transcript (storeOn (answer 0)) (call.run now) (db, false)).result = .ok b := by
  rcases call.judges now with ⟨e, -, hrun⟩ | blames
  · rw [hrun] at h
    cases h
  obtain ⟨hfails, hwants⟩ := blames.transcript (storeOn (answer 0)) (db, false)
  obtain ⟨-, hasked⟩ := looks_transcript rested (only_looks other now)
  cases hresult : (Running.transcript (storeOn (answer 0)) (call.run now) (db, false)).result with
  | ok b => exact ⟨b, rfl⟩
  | error e =>
    -- the error would be that of a call, but none is refused, and the scene is known
    obtain ⟨⟨c, reply⟩, ha, hfailed⟩ := (hfails e).mp hresult
    obtain ⟨hlooks, hreply⟩ := hasked _ ha
    cases e with
    | sceneNotFound scene =>
      cases failure?_eq_sceneNotFound_iff.mp hfailed
      have hknown : (storeOn (answer 0) (.sceneExists scene) (db, false)).1 =
          .ok (db.tables.scenes.any fun s => decide (s.id = scene)) := by
        rw [← view_of_none (rested.idle 0)]
        rfl
      rw [hknown, ← beside.scenes,
        MemoryStore.known_of_answer (known_of_ok (hwants _ ha) h)] at hreply
      cases hreply
    | store fault =>
      have haccepted := looks_accepted rested beside.readable hlooks
      rw [← hreply, failure?_eq_store_iff.mp hfailed] at haccepted
      cases haccepted
    | _ => cases isValidation_of_failure? hfailed

end Calls

namespace Api

section Stores

variable {s : Service} {now : Timestamp} {r : Request} {endpoint : Endpoint} {work : Answering}
  {store : MemoryStore} {db : Database}

/-! ## Responses -/

theorem responseTo_isSuccess {α : Type} {view : α → Json} {result : Except CatalogError α} :
    (responseTo view result).isSuccess = true ↔ ∃ a, result = .ok a := by
  cases result with
  | ok a => exact ⟨fun _ => ⟨a, rfl⟩, fun _ => rfl⟩
  | error e =>
    have hfailed : (responseTo view (.error e)).isSuccess = false :=
      Error.toResponse_isSuccess (.catalog e)
    simp [hfailed]

/-! ## One request -/

/-- A request states a duration that is too long for a database. -/
def Overlong (s : Service) (r : Request) : Prop :=
  ∃ endpoint duration, s.endpoint? r = some endpoint ∧ States s r duration endpoint ∧
    maxDuration < duration.toNat

/-- Over a database, work that is done for a request keeps what there is to keep, and fails to save
only what the request states. -/
theorem Serves.keeps (h : Serves s now r endpoint work) (asks : s.endpoint? r = some endpoint)
    (sound : db.Sound) :
    let t := Running.transcript (storeOn (answer 0)) work (db, false)
    t.state.2 = false ∧ db.Keeps t.state.1 ∧ ∀ a ∈ t.asked, a.FailsToSave → Overlong s r := by
  refine h.cases_looks (fun work only => ?_) fun actor change _ _ _ _ states => ?_
  · obtain ⟨hstate, hasked⟩ := looks_transcript sound.rested only
    dsimp only
    rw [hstate]
    exact ⟨rfl, ⟨sound, rfl, id⟩, fun a ha fails =>
      absurd fails.1 (StoreCall.kind?_ne_save_of_looks (hasked a ha).1)⟩
  · rw [answering_transcript]
    obtain ⟨-, hclosed, hkeeps⟩ := change_keeps sound change now
    refine ⟨hclosed, hkeeps, fun a ha fails => ?_⟩
    obtain ⟨f, duration, hstated, hlong⟩ := exists_stated_of_failsToSave sound change now ha fails
    exact ⟨endpoint, duration, asks, states f duration hstated, hlong⟩

/-- Where work for a request is accepted in memory, it is over a database. -/
theorem Serves.accepted (h : Serves s now r endpoint work) (asks : s.endpoint? r = some endpoint)
    (beside : store.Beside db) (sound : db.Sound) (short : ¬ Overlong s r)
    (success : (Running.transcript (MemoryStore.respond 0) work store).result.isSuccess = true) :
    (Running.transcript (storeOn (answer 0)) work (db, false)).result.isSuccess = true := by
  have looking : ∀ (call : CatalogCall) (view : call.Reply → Json),
      (∀ change, call ≠ .change change) →
      (Running.transcript (MemoryStore.respond 0) (answering view (call.run now))
        store).result.isSuccess = true →
      (Running.transcript (storeOn (answer 0)) (answering view (call.run now))
        (db, false)).result.isSuccess = true := by
    intro call view other success
    rw [answering_transcript] at success ⊢
    obtain ⟨a, ha⟩ := responseTo_isSuccess.mp success
    exact responseTo_isSuccess.mpr (CatalogCall.accepted beside sound.rested other ha)
  cases h with
  | settled response => exact success
  | probe => rfl
  | change change shown role makes acting named states =>
    rw [answering_transcript] at success ⊢
    obtain ⟨a, ha⟩ := responseTo_isSuccess.mp success
    refine responseTo_isSuccess.mpr (Change.accepted beside sound (fun f duration hstated => ?_) ha)
    exact Nat.le_of_not_lt fun hlong =>
      short ⟨endpoint, duration, asks, states f duration hstated, hlong⟩
  | fingerprints shown role wanted => exact looking (.findByFingerprints wanted) _ nofun success
  | hashes shown role wanted => exact looking (.findByHashes wanted) _ nofun success
  | scene shown role scene => exact looking (.sceneRecords scene) _ nofun success
  | query shown role filter spec =>
    exact looking (.queryScenes filter spec s.maxPerPage) _ nofun success

theorem Handles.keeps (h : Handles s now r work) (sound : db.Sound) :
    let t := Running.transcript (storeOn (answer 0)) work (db, false)
    t.state.2 = false ∧ db.Keeps t.state.1 ∧ ∀ a ∈ t.asked, a.FailsToSave → Overlong s r := by
  cases h with
  | settled response => exact ⟨rfl, ⟨sound, rfl, id⟩, nofun⟩
  | served asks serves finish status =>
    rw [transcript_bind]
    simpa only [Running.transcript, List.append_nil] using serves.keeps asks sound

theorem Handles.accepted (h : Handles s now r work) (beside : store.Beside db) (sound : db.Sound)
    (short : ¬ Overlong s r)
    (success : (Running.transcript (MemoryStore.respond 0) work store).result.isSuccess = true) :
    (Running.transcript (storeOn (answer 0)) work (db, false)).result.isSuccess = true := by
  cases h with
  | settled response => exact success
  | served asks serves finish status =>
    rw [transcript_bind] at success ⊢
    simp only [Running.transcript, Response.isSuccess, status] at success ⊢
    exact serves.accepted asks beside sound short success

/-! ## Sessions -/

/-- The calls of the store in an exchange, with their answers. -/
def Exchange.answered {σ : Type} (respond : (call : StoreCall) → σ → call.Reply × σ)
    (x : Exchange σ) : List (Answered StoreCall StoreCall.Reply) :=
  answersTo respond x.before x.calls

theorem Moves.scenes {c c' : Catalog} (h : Moves s now r c c') : c'.scenes = c.scenes := by
  cases h <;> rfl

/-- Between requests, no transaction is open over a sound database. -/
structure Surroundings.Sound (around : Surroundings (Database × Bool)) : Prop where
  closed : around.store.2 = false
  sound : around.store.1.Sound

theorem Surroundings.Sound.store_eq {around : Surroundings (Database × Bool)} (h : around.Sound) :
    around.store = (around.store.1, false) := Prod.ext rfl h.closed

/-- One request over a database. -/
theorem exchange_keeps {around : Surroundings (Database × Bool)} (rests : around.Sound)
    (s : Service) (now : Timestamp) (r : Request) :
    let (x, after) := s.exchange (storeOn (answer 0)) now r around
    (∀ a ∈ x.answered (storeOn (answer 0)), a.FailsToSave → Overlong s x.request) ∧
      after.Sound ∧ around.store.1.Keeps after.store.1 := by
  have hkeeps := (handle_handles s now r around.debts).keeps rests.sound
  rw [← rests.store_eq] at hkeeps
  obtain ⟨hclosed, keeps, hfails⟩ := hkeeps
  obtain ⟨locks', hexchange⟩ := exchange_eq s (storeOn (answer 0)) now r around
  rw [hexchange]
  refine ⟨?_, ⟨hclosed, keeps.sound⟩, keeps⟩
  rw [Exchange.answered, (transcript_answers _ _ _).answersTo_eq]
  exact hfails

/-- One request over both. The stores stay side by side even if only one of them accepts it. -/
theorem exchange_accepted {around : Surroundings MemoryStore}
    {around' : Surroundings (Database × Bool)} (debts : around.debts = around'.debts)
    (beside : around.store.Beside around'.store.1) (rests : around'.Sound) (s : Service)
    (now : Timestamp) (r : Request) :
    let (x, after) := s.exchange (MemoryStore.respond 0) now r around
    let (x', after') := s.exchange (storeOn (answer 0)) now r around'
    (¬ Overlong s x.request → x.response.isSuccess = true → x'.response.isSuccess = true) ∧
      after.debts = after'.debts ∧ after.store.Beside after'.store.1 := by
  have handles := handle_handles s now r around.debts
  have haccepted := handles.accepted beside rests.sound
  have hkeeps := handles.keeps rests.sound
  rw [← rests.store_eq] at haccepted hkeeps
  obtain ⟨-, keeps, -⟩ := hkeeps
  obtain ⟨hstaged, moves⟩ := handles.moves around.store beside.clean
  obtain ⟨locks, hexchange⟩ := exchange_eq s (MemoryStore.respond 0) now r around
  obtain ⟨locks', hexchange'⟩ := exchange_eq s (storeOn (answer 0)) now r around'
  rw [hexchange, hexchange', ← debts]
  refine ⟨haccepted, rfl, hstaged, keeps.readable beside.readable, fun scene => ?_⟩
  dsimp only
  rw [Catalog.scene?, moves.scenes, keeps.scenes]
  exact beside.scenes scene

theorem session_keeps {around : Surroundings (Database × Bool)} (rests : around.Sound)
    (s : Service) (requests : List (Timestamp × Request)) :
    ∀ x ∈ s.session (storeOn (answer 0)) requests around,
      ∀ a ∈ x.answered (storeOn (answer 0)), a.FailsToSave → Overlong s x.request := by
  induction requests generalizing around with
  | nil => exact fun x hx => absurd hx List.not_mem_nil
  | cons request requests ih =>
    obtain ⟨hfails, rests', -⟩ := exchange_keeps rests s request.1 request.2
    exact List.forall_mem_cons.mpr ⟨hfails, ih rests'⟩

theorem session_accepted {around : Surroundings MemoryStore}
    {around' : Surroundings (Database × Bool)} (debts : around.debts = around'.debts)
    (beside : around.store.Beside around'.store.1) (rests : around'.Sound) (s : Service)
    (requests : List (Timestamp × Request)) :
    List.Forall₂
      (fun x x' => ¬ Overlong s x.request → x.response.isSuccess = true →
        x'.response.isSuccess = true)
      (s.session (MemoryStore.respond 0) requests around)
      (s.session (storeOn (answer 0)) requests around') := by
  induction requests generalizing around around' with
  | nil => exact .nil
  | cons request requests ih =>
    obtain ⟨haccepted, hdebts, beside'⟩ :=
      exchange_accepted debts beside rests s request.1 request.2
    obtain ⟨-, rests', -⟩ := exchange_keeps rests s request.1 request.2
    exact .cons haccepted (ih hdebts beside' rests')

/-- **What can be stored.** Over a database that refuses nothing, whatever requests come in, only a
request that itself states a duration which is too long fails to save what it makes; every other one
that is accepted over a store in memory that knows the same scenes is accepted. -/
theorem session_stored (s : Service) (requests : List (Timestamp × Request))
    (debts : RateLimit.Debts) (locks locks' : LockTable) (store : MemoryStore) (db : Database)
    (sound : db.Sound) :
    let exchanges := s.session (storeOn (answer 0)) requests ⟨debts, locks', (db, false)⟩
    (∀ x ∈ exchanges, ∀ a ∈ x.answered (storeOn (answer 0)), a.FailsToSave →
        Overlong s x.request) ∧
      (store.Beside db →
        List.Forall₂
          (fun x x' => ¬ Overlong s x.request → x.response.isSuccess = true →
            x'.response.isSuccess = true)
          (s.session (MemoryStore.respond 0) requests ⟨debts, locks, store⟩) exchanges) := by
  have rests : Surroundings.Sound ⟨debts, locks', (db, false)⟩ := ⟨rfl, sound⟩
  exact ⟨session_keeps rests s requests, fun beside => session_accepted rfl beside rests s requests⟩

/-! ## A scene without fingerprints -/

/-- A database with a scene that has no fingerprints. -/
def bareScene : Database :=
  .atRest (fun _ _ => false) ⟨[⟨.ofNat 0, none, none, ⟨0, 0⟩⟩], [], [], []⟩ 1

/-- The same in memory. -/
def bareStore : MemoryStore := .of (.ofScenes [.bare (.ofNat 0) ⟨0, 0⟩]) true

theorem recordRows_bareScene (scene : Uuid) : bareScene.tables.recordRows scene = [] := by
  simp [bareScene, Database.atRest, Tables.recordRows, Tables.of, loaded]

theorem bareScene_sound : bareScene.Sound where
  rested := ⟨⟨fun _ => .ofNat 0, nofun⟩, fun _ => rfl, fun _ => rfl⟩
  fits scene row hrow := by
    rw [recordRows_bareScene] at hrow
    cases hrow

theorem bareStore_beside : bareStore.Beside bareScene where
  clean := rfl
  readable scene := ⟨[], by rw [recordRows_bareScene]; rfl⟩
  scenes scene := by
    have hscenes : bareStore.catalog.scenes = [.bare (.ofNat 0) ⟨0, 0⟩] := rfl
    rw [Catalog.scene?, hscenes]
    by_cases h : Uuid.ofNat 0 = scene <;> simp [bareScene, Database.atRest, Scene.bare, h]

theorem serve_submit {actor : Actor} (shown : r.actor s.secret now = .ok actor) :
    s.serve now r .submit = s.withBody r SubmitRequest.ofDraft fun request =>
      (submit now actor request).toResponse := by
  simp only [Service.serve, Service.withActor, shown]

/-- A submission like `ownSubmission`, but for the duration that it states. -/
def submissionOf (duration : String) : Request :=
  { ownSubmission with
    body := "[\"00000000000000000000000000000000\",\"OSHASH\",\"00ff00ff00ff00ff\"," ++
      duration ++ "]" }

/-- What is done for it once its user has been told. -/
def submissionWork (duration : String) : Answering :=
  smallService.withBody (submissionOf duration) SubmitRequest.ofDraft fun request =>
    (submit ⟨0, 0⟩ ⟨.ofNat 1, [.modify]⟩ request).toResponse

theorem submissionOf_asks (duration : String) :
    smallService.endpoint? (submissionOf duration) = some .submit := by
  have same : smallService.endpoint? (submissionOf duration) =
      smallService.endpoint? ownSubmission := Service.endpoint?_congr rfl rfl
  rw [same]
  decide +kernel

theorem exchange_submissionOf {σ : Type} (respond : (call : StoreCall) → σ → call.Reply × σ)
    (duration : String) (state : σ) :
    let x := (smallService.exchange respond ⟨0, 0⟩ (submissionOf duration) ⟨[], ∅, state⟩).1
    let t := Running.transcript respond (submissionWork duration) state
    x.response.status = t.result.status ∧ x.answered respond = t.asked := by
  have shown : (submissionOf duration).actor smallService.secret ⟨0, 0⟩ =
      .ok ⟨.ofNat 1, [.modify]⟩ :=
    Request.actor_eq_ok_iff.mpr ⟨"s", modifierToken, rfl, rfl, modifierToken_counts⟩
  have bodied : (submissionOf duration).method ≠ "HEAD" := by
    change "POST" ≠ "HEAD"
    decide
  have admits : smallService.Admits ⟨0, 0⟩ (submissionOf duration) [] :=
    ⟨fun _ h => (by cases h), fun _ h => (by cases h)⟩
  obtain ⟨locks, hexchange⟩ :=
    exchange_eq smallService respond ⟨0, 0⟩ (submissionOf duration) ⟨[], ∅, state⟩
  dsimp only
  rw [hexchange, Exchange.answered, (transcript_answers _ _ _).answersTo_eq,
    handle_of_admits (submissionOf_asks duration) bodied admits, serve_submit shown, transcript_bind]
  exact ⟨rfl, List.append_nil _⟩

theorem session_singleton {σ : Type} (respond : (call : StoreCall) → σ → call.Reply × σ)
    (around : Surroundings σ) :
    s.session respond [(now, r)] around = [(s.exchange respond now r around).1] := rfl

/-- A submission that states a duration which is too long is accepted in memory, but not over a
database, whose store fails to save what it makes. -/
theorem submissionOf_unsaved :
    let requests := [((⟨0, 0⟩ : Timestamp), submissionOf "2147483648")]
    bareScene.Sound ∧ bareStore.Beside bareScene ∧
      (∃ x ∈ smallService.session (MemoryStore.respond 0) requests ⟨[], ∅, bareStore⟩,
        x.response.status = 200) ∧
      ∃ x ∈ smallService.session (storeOn (answer 0)) requests ⟨[], ∅, (bareScene, false)⟩,
        x.response.status = 500 ∧ ∃ a ∈ x.answered (storeOn (answer 0)), a.FailsToSave := by
  have hmemory := (exchange_submissionOf (MemoryStore.respond 0) "2147483648" bareStore).1
  have hsql := exchange_submissionOf (storeOn (answer 0)) "2147483648" (bareScene, false)
  simp only [session_singleton, List.mem_singleton, exists_eq_left]
  rw [hmemory, hsql.1, hsql.2]
  refine ⟨bareScene_sound, bareStore_beside, by decide +kernel, by decide +kernel, ?_⟩
  have hfails : ∃ a ∈ (Running.transcript (storeOn (answer 0)) (submissionWork "2147483648")
      (bareScene, false)).asked, a.1.kind? = some .save ∧
        a.1.refusal? a.2 = some (.serialization "duration 2147483648 too large") := by
    decide +kernel
  obtain ⟨a, ha, hsave, hrefusal⟩ := hfails
  exact ⟨a, ha, hsave, _, hrefusal⟩

/-- One that states a duration of 10 is accepted over both. -/
theorem session_stored_submissionOf :
    let r := submissionOf "10"
    bareScene.Sound ∧ bareStore.Beside bareScene ∧ ¬ Overlong smallService r ∧
      ∃ x ∈ smallService.session (storeOn (answer 0)) [(⟨0, 0⟩, r)] ⟨[], ∅, (bareScene, false)⟩,
        x.response.isSuccess = true ∧ ∀ a ∈ x.answered (storeOn (answer 0)), ¬ a.FailsToSave := by
  intro r
  have short : ¬ Overlong smallService r := by
    rintro ⟨endpoint, duration, asks, states, hlong⟩
    have hstated : (r.decodeBody smallService.bodyLimit SubmitRequest.ofDraft).toOption.bind
        (·.duration) = some 10 := by decide +kernel
    obtain rfl : .submit = endpoint := Option.some.inj ((submissionOf_asks "10").symm.trans asks)
    cases states with
    | submit decoded submits stated =>
      rw [decoded] at hstated
      obtain rfl : duration = 10 := Option.some.inj (stated.symm.trans hstated)
      exact absurd hlong (by decide)
  obtain ⟨saves, accepted⟩ := session_stored smallService [(⟨0, 0⟩, r)] [] ∅ ∅ bareStore bareScene
    bareScene_sound
  have hmemory : (smallService.exchange (MemoryStore.respond 0) ⟨0, 0⟩ r
      ⟨[], ∅, bareStore⟩).1.response.isSuccess = true := by
    rw [Response.isSuccess, (exchange_submissionOf (MemoryStore.respond 0) "10" bareStore).1]
    decide +kernel
  have hboth := accepted bareStore_beside
  simp only [session_singleton, List.forall₂_cons, List.mem_singleton, forall_eq] at hboth saves
  simp only [session_singleton, List.mem_singleton, exists_eq_left]
  exact ⟨bareScene_sound, bareStore_beside, short, hboth.1 short hmemory,
    fun a ha fails => short (saves a ha fails)⟩

end Stores

end Api

end SceneCatalog
