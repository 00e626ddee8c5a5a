import SceneCatalog.Ask
import SceneCatalog.LockTable

/-!
Calls that run side by side. Each call is a worker; a schedule says whose turn it is, and a turn
takes a worker to its next question. Between two questions nothing can come in between, and at
every question anything may.
-/
namespace SceneCatalog

/-- A running call: what is left of it, and the mutex that it holds or awaits. -/
structure Worker (Call : Type) (Reply : Call → Type) (α : Type) where
  rest : Running Call Reply α
  lease : Option Nat

/-- Calls that run side by side over one lock table and one answering state. `asked` lists the
calls in the order in which they were made, each with the number of its worker. -/
structure Workers (Call : Type) (Reply : Call → Type) (σ α : Type) where
  workers : List (Worker Call Reply α)
  locks : LockTable
  state : σ
  asked : List (Nat × Call)

namespace Workers

variable {Call : Type} {Reply : Call → Type} {σ α : Type}

/-- Calls that have not started. -/
def start (calls : List (Running Call Reply α)) (locks : LockTable) (state : σ) :
    Workers Call Reply σ α :=
  ⟨calls.map fun call => ⟨call, none⟩, locks, state, []⟩

/-- Replaces the worker with number `i`. -/
def put (w : Workers Call Reply σ α) (i : Nat) (worker : Worker Call Reply α) :
    Workers Call Reply σ α :=
  { w with workers := w.workers.set i worker }

/-- Gives worker `i` a turn. A worker that is done, or waits for a lock it does not hold yet, or
makes a call that has to wait (`respond` gives nothing), stays where it is. -/
def turn (respond : Nat → (call : Call) → σ → Option (Reply call × σ))
    (w : Workers Call Reply σ α) (i : Nat) : Workers Call Reply σ α :=
  match w.workers[i]? with
  | none => w
  | some worker =>
    match worker.rest with
    | .done _ => w
    | .ask (.acquire scene) next =>
      match worker.lease with
      | some name => if w.locks.isHeldBy name i then w.put i ⟨next (), some name⟩ else w
      | none =>
        let (locks, name) := w.locks.request scene i
        let w := { w with locks }
        if locks.isHeldBy name i then w.put i ⟨next (), some name⟩
        else w.put i ⟨worker.rest, some name⟩
    | .ask (.release scene) next =>
      match worker.lease with
      | some name => { w with locks := w.locks.release scene name }.put i ⟨next (), none⟩
      | none => w.put i ⟨next (), none⟩
    | .ask (.call call) next =>
      match respond i call w.state with
      | none => w
      | some (reply, state) =>
        { w with state, asked := w.asked ++ [(i, call)] }.put i ⟨next reply, worker.lease⟩

/-- Gives turns in the order of a schedule. -/
def runSchedule (respond : Nat → (call : Call) → σ → Option (Reply call × σ))
    (schedule : List Nat) (w : Workers Call Reply σ α) : Workers Call Reply σ α :=
  schedule.foldl (turn respond) w

/-- The results of the workers, `none` where one is not done. -/
def results (w : Workers Call Reply σ α) : List (Option α) :=
  w.workers.map fun worker =>
    match worker.rest with
    | .done result => some result
    | .ask _ _ => none

/-- A schedule of rounds in which each of `n` workers has a turn. A change of a scene takes at most
eight turns from the one in which it gets its lock, so eight rounds for each end them all. -/
def rounds (n : Nat) : List Nat := (List.replicate (8 * n) (List.range n)).flatten

end Workers

/-- Answers the questions of a call that runs alone. It is worker 0, and every lock is free. -/
def respondAlone {Call : Type} {Reply : Call → Type} {σ : Type}
    (respond : (call : Call) → σ → Reply call × σ) (ask : Ask Call) (state : LockTable × σ) :
    ask.Answer Reply × (LockTable × σ) :=
  match ask with
  | .acquire scene => ((), (state.1.request scene 0).1, state.2)
  | .release scene =>
    ((), (state.1.entries.lookup scene).elim state.1 (state.1.release scene), state.2)
  | .call call =>
    let (reply, after) := respond call state.2
    (reply, state.1, after)

end SceneCatalog
