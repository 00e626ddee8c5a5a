import SceneCatalog.Proofs.Locks.Turn
import SceneCatalog.Replicas

/-!
What a turn can do in catalogs that share a state, as far as it matters across catalogs: it leaves
all calls where they are, takes a call past a question about the lock of its catalog, or makes a
call.
-/
namespace SceneCatalog.Replicas

variable {Call : Type} {Reply : Call → Type} {σ α : Type}

/-- What is left of call `i`. -/
def rest? (r : Replicas Call Reply σ α) (i : Nat) : Option (Running Call Reply α) :=
  r.workers[i]?.map Worker.rest

/-- The steps that a turn of worker `i` can be, locks of catalogs left out of account. -/
inductive Move (respond : Nat → (call : Call) → σ → Option (Reply call × σ))
    (r : Replicas Call Reply σ α) (i : Nat) (r' : Replicas Call Reply σ α) : Prop
  | stays (rests : ∀ j, r'.rest? j = r.rest? j) (state : r'.state = r.state)
      (asked : r'.asked = r.asked)
  | passes {scene : Uuid} {next : Unit → Running Call Reply α}
      (here : r.rest? i = some (.ask (.acquire scene) next) ∨
        r.rest? i = some (.ask (.release scene) next))
      (after : r'.rest? i = some (next ())) (others : ∀ j, j ≠ i → r'.rest? j = r.rest? j)
      (state : r'.state = r.state) (asked : r'.asked = r.asked)
  | called {call : Call} {next : Reply call → Running Call Reply α} {reply : Reply call}
      (here : r.rest? i = some (.ask (.call call) next))
      (answer : respond i call r.state = some (reply, r'.state))
      (after : r'.rest? i = some (next reply)) (others : ∀ j, j ≠ i → r'.rest? j = r.rest? j)
      (asked : r'.asked = r.asked ++ [(i, call)])

variable {respond : Nat → (call : Call) → σ → Option (Reply call × σ)}
  {r : Replicas Call Reply σ α} {i : Nat}

/-- What is left of a worker that is there. -/
theorem rest?_of_workers {worker : Worker Call Reply α} (h : r.workers[i]? = some worker) :
    r.rest? i = some worker.rest := by
  rw [rest?, h]
  rfl

section Put

variable {catalog : Nat} {locks : LockTable} {state : σ} {asked : List (Nat × Call)}
  {worker old : Worker Call Reply α}

theorem rest?_put_self (here : r.workers[i]? = some old) :
    (r.putCatalog catalog ((⟨r.workers, locks, state, asked⟩ : Workers Call Reply σ α).put i
      worker)).rest? i = some worker.rest :=
  rest?_of_workers (Workers.workers_put_self here)

theorem rest?_put_ne {j : Nat} (h : j ≠ i) :
    (r.putCatalog catalog ((⟨r.workers, locks, state, asked⟩ : Workers Call Reply σ α).put i
      worker)).rest? j = r.rest? j :=
  congrArg (Option.map Worker.rest) (Workers.workers_put_ne h)

end Put

theorem turn_move (home : Nat → Nat)
    (respond : Nat → (call : Call) → σ → Option (Reply call × σ)) (r : Replicas Call Reply σ α)
    (i : Nat) : Move respond r i (r.turn home respond i) := by
  have t := Workers.turn_spec respond (r.inCatalog (home i)) i
  unfold turn
  generalize (r.inCatalog (home i)).turn respond i = w' at t
  cases t with
  | idle why => exact .stays (fun _ => rfl) rfl rfl
  | granted here held =>
    exact .passes (Or.inl (rest?_of_workers here)) (rest?_put_self here)
      (fun j hj => rest?_put_ne hj) rfl rfl
  | queued here held =>
    refine .stays (fun j => ?_) rfl rfl
    by_cases hj : j = i
    · subst hj
      exact (rest?_put_self here).trans (rest?_of_workers here).symm
    · exact rest?_put_ne hj
  | woken here held =>
    exact .passes (Or.inl (rest?_of_workers here)) (rest?_put_self here)
      (fun j hj => rest?_put_ne hj) rfl rfl
  | released here =>
    exact .passes (Or.inr (rest?_of_workers here)) (rest?_put_self here)
      (fun j hj => rest?_put_ne hj) rfl rfl
  | unheld here =>
    exact .passes (Or.inr (rest?_of_workers here)) (rest?_put_self here)
      (fun j hj => rest?_put_ne hj) rfl rfl
  | called here answer =>
    exact .called (rest?_of_workers here) answer (rest?_put_self here)
      (fun j hj => rest?_put_ne hj) rfl

/-! ## Runs -/

theorem runSchedule_append (home : Nat → Nat)
    (respond : Nat → (call : Call) → σ → Option (Reply call × σ)) (first second : List Nat)
    (r : Replicas Call Reply σ α) :
    r.runSchedule home respond (first ++ second) =
      (r.runSchedule home respond first).runSchedule home respond second :=
  List.foldl_append

/-- What every turn keeps, every schedule keeps. -/
theorem runSchedule_keeps {home : Nat → Nat} {P : Replicas Call Reply σ α → Prop}
    (keep : ∀ r i, P r → P (r.turn home respond i)) (schedule : List Nat) (h : P r) :
    P (r.runSchedule home respond schedule) := by
  induction schedule generalizing r with
  | nil => exact h
  | cons i schedule ih => exact ih (keep r i h)

/-! ## Results -/

theorem rest?_of_results {a : α} (h : r.results[i]? = some (some a)) :
    r.rest? i = some (.done a) := by
  rw [results, Workers.results, List.getElem?_map, Option.map_eq_some_iff] at h
  obtain ⟨⟨rest, lease⟩, here, hrest⟩ := h
  cases rest with
  | done b =>
    cases hrest
    exact rest?_of_workers here
  | ask q next => cases hrest

/-- Every call has come to its end. -/
def Over (r : Replicas Call Reply σ α) : Prop := ∀ result ∈ r.results, result.isSome

theorem Over.rest {rest : Running Call Reply α} (h : r.Over) (here : r.rest? i = some rest) :
    ∃ a, rest = .done a := by
  obtain ⟨⟨rest', lease⟩, hw, rfl⟩ := Option.map_eq_some_iff.mp here
  have hres := h _ (List.mem_map_of_mem (List.mem_of_getElem? hw))
  cases rest' with
  | done a => exact ⟨a, rfl⟩
  | ask q next => cases hres

end SceneCatalog.Replicas
