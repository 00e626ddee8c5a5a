import SceneCatalog.Proofs.Locks.Turn

/-!
A call that runs alone. Nobody else can hold a lock that it asks for, so what it comes to does not
depend on its locks, and can be told from the calls it makes and the answers they get. The two ways
of running a call alone, as a dialogue and as the only worker, both follow this transcript.
-/
namespace SceneCatalog

variable {Call : Type} {Reply : Call → Type} {σ α : Type}

/-- A call and the answer it got. -/
abbrev Answered (Call : Type) (Reply : Call → Type) := (call : Call) × Reply call

/-- What a call comes to when it runs alone: its result, the state it leaves, and the calls it
makes with the answers they get. -/
def Running.transcript (respond : (call : Call) → σ → Reply call × σ) :
    Running Call Reply α → σ → Dialogue.Transcript (Answered Call Reply) α σ
  | .done a, state => ⟨a, state, []⟩
  | .ask (.acquire _) next, state => transcript respond (next ()) state
  | .ask (.release _) next, state => transcript respond (next ()) state
  | .ask (.call call) next, state =>
    let (reply, after) := respond call state
    let rest := transcript respond (next reply) after
    { rest with asked := ⟨call, reply⟩ :: rest.asked }

/-- Locks aside, a dialogue with the side that answers a lone call follows the transcript. -/
theorem run_respondAlone (respond : (call : Call) → σ → Reply call × σ)
    (d : Running Call Reply α) (locks : LockTable) (state : σ) :
    let ran := d.run (respondAlone respond) (locks, state)
    let t := Running.transcript respond d state
    ran.result = t.result ∧ ran.state.2 = t.state ∧
      ran.asked.filterMap Ask.call? = t.asked.map (·.1) := by
  induction d generalizing locks state with
  | done a => exact ⟨rfl, rfl, rfl⟩
  | ask q next ih =>
    cases q with
    | acquire scene => exact ih () (locks.request scene 0).1 state
    | release scene =>
      exact ih () ((locks.entries.lookup scene).elim locks (locks.release scene)) state
    | call c =>
      obtain ⟨hresult, hstate, hasked⟩ := ih (respond c state).1 locks (respond c state).2
      exact ⟨hresult, hstate, congrArg (c :: ·) hasked⟩

/-- What comes after a dialogue goes on from the state that the dialogue leaves. -/
theorem transcript_bind {β : Type} (respond : (call : Call) → σ → Reply call × σ)
    (d : Running Call Reply α) (f : α → Running Call Reply β) (state : σ) :
    let t := Running.transcript respond d state
    let u := Running.transcript respond (f t.result) t.state
    Running.transcript respond (d.bind f) state = { u with asked := t.asked ++ u.asked } := by
  induction d generalizing state with
  | done a => rfl
  | ask q next ih =>
    cases q with
    | acquire scene => exact ih () state
    | release scene => exact ih () state
    | call c => simp [Running.transcript, Dialogue.bind, ih]

/-- The answers of a side that starts out of one state and ends up in another. -/
def Answers (respond : (call : Call) → σ → Reply call × σ) :
    σ → List (Answered Call Reply) → σ → Prop
  | state, [], final => state = final
  | state, ⟨call, reply⟩ :: rest, final =>
    (respond call state).1 = reply ∧ Answers respond (respond call state).2 rest final

theorem transcript_answers (respond : (call : Call) → σ → Reply call × σ)
    (d : Running Call Reply α) (state : σ) :
    let t := Running.transcript respond d state
    Answers respond state t.asked t.state := by
  induction d generalizing state with
  | done a => rfl
  | ask q next ih =>
    cases q with
    | acquire scene => exact ih () state
    | release scene => exact ih () state
    | call c => exact ⟨rfl, ih _ _⟩

namespace Workers

variable {respond : Nat → (call : Call) → σ → Option (Reply call × σ)}
  {answer : (call : Call) → σ → Reply call × σ} {w w' : Workers Call Reply σ α} {i : Nat}
  {t : Dialogue.Transcript (Answered Call Reply) α σ}

/-- There is one worker, and what it has done and has still to do make up a transcript. -/
def Follows (answer : (call : Call) → σ → Reply call × σ)
    (t : Dialogue.Transcript (Answered Call Reply) α σ) (w : Workers Call Reply σ α) : Prop :=
  ∃ rest lease made, w.workers = [⟨rest, lease⟩] ∧ w.asked = made.map (fun a => (0, a.1)) ∧
    let ahead := Running.transcript answer rest w.state
    t = { ahead with asked := made ++ ahead.asked }

theorem Follows.turn (h : Follows answer t w) (answers : ∀ c s, respond 0 c s = some (answer c s))
    (turn : Turn respond w i w') : Follows answer t w' := by
  obtain ⟨rest, lease, made, hworkers, hasked, rfl⟩ := h
  have lone : ∀ {worker}, w.workers[i]? = some worker → i = 0 ∧ worker = ⟨rest, lease⟩ := by
    intro worker here
    rw [hworkers] at here
    obtain ⟨hi, rfl⟩ := List.getElem?_eq_some_iff.mp here
    obtain rfl : i = 0 := by simpa using hi
    exact ⟨rfl, rfl⟩
  -- no turn on the locks moves the transcript on; only a call does
  have put : ∀ {w₀ : Workers Call Reply σ α} {worker}, i = 0 → w₀.workers = w.workers →
      (w₀.put i worker).workers = [worker] := by
    rintro w₀ worker rfl hw
    simp [Workers.put, hw, hworkers]
  cases turn with
  | idle why => exact ⟨rest, lease, made, hworkers, hasked, rfl⟩
  | granted here held =>
    obtain ⟨hi, hworker⟩ := lone here
    cases hworker
    exact ⟨_, _, made, put hi rfl, hasked, rfl⟩
  | queued here held =>
    obtain ⟨hi, hworker⟩ := lone here
    cases hworker
    exact ⟨_, _, made, put hi rfl, hasked, rfl⟩
  | woken here held =>
    obtain ⟨hi, hworker⟩ := lone here
    cases hworker
    exact ⟨_, _, made, put hi rfl, hasked, rfl⟩
  | released here =>
    obtain ⟨hi, hworker⟩ := lone here
    cases hworker
    exact ⟨_, _, made, put hi rfl, hasked, rfl⟩
  | unheld here =>
    obtain ⟨hi, hworker⟩ := lone here
    cases hworker
    exact ⟨_, _, made, put hi rfl, hasked, rfl⟩
  | @called c next _ reply state here answered =>
    obtain ⟨rfl, hworker⟩ := lone here
    cases hworker
    have hanswer : answer c w.state = (reply, state) :=
      Option.some.inj ((answers c w.state).symm.trans answered)
    refine ⟨_, _, made ++ [⟨c, reply⟩], put rfl rfl, ?_, ?_⟩
    · simp [hasked]
    · simp [Running.transcript, hanswer]

/-- **A lone worker** that has come to its end has the result of the transcript, has made its
calls, and leaves its state. -/
theorem lone_run (answers : ∀ c s, respond 0 c s = some (answer c s)) (call : Running Call Reply α)
    (locks : LockTable) (state : σ) (schedule : List Nat)
    (ended : ∀ result ∈ ((start [call] locks state).runSchedule respond schedule).results,
      result.isSome) :
    let w := (start [call] locks state).runSchedule respond schedule
    let t := Running.transcript answer call state
    w.results = [some t.result] ∧ w.state = t.state ∧ w.asked = t.asked.map fun a => (0, a.1) := by
  have follows : Follows answer (Running.transcript answer call state)
      ((start [call] locks state).runSchedule respond schedule) :=
    runSchedule_keeps (fun w i h => h.turn answers (turn_spec respond w i)) schedule
      ⟨call, none, [], rfl, rfl, rfl⟩
  obtain ⟨rest, lease, made, hworkers, hasked, ht⟩ := follows
  simp only [results, hworkers] at ended ⊢
  cases rest with
  | ask q next => cases ended none (List.mem_singleton.mpr rfl)
  | done result =>
    rw [ht]
    simp [Running.transcript, hasked]

end Workers

end SceneCatalog
