import SceneCatalog.Workers

/-!
What a turn of a worker can do, said once: it leaves everything as it is for one of four reasons,
asks for a lock and gets it or not, goes on with a lock that was handed to it, gives a lock back,
or makes a call.
-/
namespace SceneCatalog.Workers

variable {Call : Type} {Reply : Call → Type} {σ α : Type}

/-- Why a turn of worker `i` changes nothing: there is no such worker, it is done, it waits for a
lock that it does not hold, or its call has to wait. -/
inductive Idle (respond : Nat → (call : Call) → σ → Option (Reply call × σ))
    (w : Workers Call Reply σ α) (i : Nat) : Prop
  | missing (here : w.workers[i]? = none)
  | ended {result lease} (here : w.workers[i]? = some ⟨.done result, lease⟩)
  | waiting {scene next name} (here : w.workers[i]? = some ⟨.ask (.acquire scene) next, some name⟩)
      (free : w.locks.isHeldBy name i = false)
  | blocked {call next lease} (here : w.workers[i]? = some ⟨.ask (.call call) next, lease⟩)
      (silent : respond i call w.state = none)

/-- The steps that a turn of worker `i` can be. -/
inductive Turn (respond : Nat → (call : Call) → σ → Option (Reply call × σ))
    (w : Workers Call Reply σ α) (i : Nat) : Workers Call Reply σ α → Prop
  | idle (why : Idle respond w i) : Turn respond w i w
  /-- The worker asks for a lock and has it at once. -/
  | granted {scene next} (here : w.workers[i]? = some ⟨.ask (.acquire scene) next, none⟩)
      (held : (w.locks.request scene i).1.isHeldBy (w.locks.request scene i).2 i = true) :
      Turn respond w i ({ w with locks := (w.locks.request scene i).1 }.put i
        ⟨next (), some (w.locks.request scene i).2⟩)
  /-- The worker asks for a lock and has to wait. -/
  | queued {scene next} (here : w.workers[i]? = some ⟨.ask (.acquire scene) next, none⟩)
      (held : (w.locks.request scene i).1.isHeldBy (w.locks.request scene i).2 i = false) :
      Turn respond w i ({ w with locks := (w.locks.request scene i).1 }.put i
        ⟨.ask (.acquire scene) next, some (w.locks.request scene i).2⟩)
  /-- The worker finds that the lock it waited for is its own now. -/
  | woken {scene next name} (here : w.workers[i]? = some ⟨.ask (.acquire scene) next, some name⟩)
      (held : w.locks.isHeldBy name i = true) :
      Turn respond w i (w.put i ⟨next (), some name⟩)
  | released {scene next name}
      (here : w.workers[i]? = some ⟨.ask (.release scene) next, some name⟩) :
      Turn respond w i ({ w with locks := w.locks.release scene name }.put i ⟨next (), none⟩)
  /-- A lock is given back that the worker does not have, which no change of a scene does. -/
  | unheld {scene next} (here : w.workers[i]? = some ⟨.ask (.release scene) next, none⟩) :
      Turn respond w i (w.put i ⟨next (), none⟩)
  | called {call next lease reply state}
      (here : w.workers[i]? = some ⟨.ask (.call call) next, lease⟩)
      (answer : respond i call w.state = some (reply, state)) :
      Turn respond w i ({ w with state, asked := w.asked ++ [(i, call)] }.put i ⟨next reply, lease⟩)

theorem turn_spec (respond : Nat → (call : Call) → σ → Option (Reply call × σ))
    (w : Workers Call Reply σ α) (i : Nat) : Turn respond w i (w.turn respond i) := by
  unfold turn
  cases h : w.workers[i]? with
  | none => exact .idle (.missing h)
  | some worker =>
    obtain ⟨rest, lease⟩ := worker
    cases rest with
    | done result => exact .idle (.ended h)
    | ask q next =>
      cases q with
      | acquire scene =>
        cases lease with
        | some name =>
          cases hheld : w.locks.isHeldBy name i with
          | true => simpa [hheld] using Turn.woken h hheld
          | false => simpa [hheld] using Turn.idle (.waiting h hheld)
        | none =>
          cases hheld : (w.locks.request scene i).1.isHeldBy (w.locks.request scene i).2 i with
          | true => simpa [hheld] using Turn.granted h hheld
          | false => simpa [hheld] using Turn.queued h hheld
      | release scene =>
        cases lease with
        | some name => exact .released h
        | none => exact .unheld h
      | call call =>
        cases hr : respond i call w.state with
        | none => simpa [hr] using Turn.idle (.blocked h hr)
        | some answer =>
          obtain ⟨reply, state⟩ := answer
          simpa [hr] using Turn.called h hr

theorem Idle.turn_eq {respond : Nat → (call : Call) → σ → Option (Reply call × σ)}
    {w : Workers Call Reply σ α} {i : Nat} (h : Idle respond w i) : w.turn respond i = w := by
  cases h with
  | missing here => simp [turn, here]
  | ended here => simp [turn, here]
  | waiting here free => simp [turn, here, free]
  | blocked here silent => simp [turn, here, silent]

/-! ## Workers by number -/

section Put

variable (w : Workers Call Reply σ α) (i : Nat) (worker : Worker Call Reply α)

@[simp] theorem locks_put : (w.put i worker).locks = w.locks := rfl

@[simp] theorem state_put : (w.put i worker).state = w.state := rfl

@[simp] theorem asked_put : (w.put i worker).asked = w.asked := rfl

@[simp] theorem length_put : (w.put i worker).workers.length = w.workers.length :=
  List.length_set

end Put

section Workers

variable {workers : List (Worker Call Reply α)} {locks : LockTable} {state : σ}
  {asked : List (Nat × Call)} {i j : Nat} {worker : Worker Call Reply α}

theorem workers_put_self {old : Worker Call Reply α} (h : workers[i]? = some old) :
    ((⟨workers, locks, state, asked⟩ : Workers Call Reply σ α).put i worker).workers[i]? =
      some worker := by
  obtain ⟨hi, -⟩ := List.getElem?_eq_some_iff.mp h
  exact List.getElem?_set_self hi

theorem workers_put_ne (h : j ≠ i) :
    ((⟨workers, locks, state, asked⟩ : Workers Call Reply σ α).put i worker).workers[j]? =
      workers[j]? :=
  List.getElem?_set_ne (Ne.symm h)

/-- A worker is the one that was put in, or one that was there. -/
theorem of_workers_put {other : Worker Call Reply α}
    (h : ((⟨workers, locks, state, asked⟩ : Workers Call Reply σ α).put i worker).workers[j]? =
      some other) : (j = i ∧ other = worker) ∨ (j ≠ i ∧ workers[j]? = some other) := by
  by_cases hj : j = i
  · subst hj
    obtain ⟨_, he⟩ := List.getElem?_eq_some_iff.mp h
    rw [← he]
    exact Or.inl ⟨rfl, List.getElem_set_self _⟩
  · rw [workers_put_ne hj] at h
    exact Or.inr ⟨hj, h⟩

end Workers

/-! ## Runs -/

theorem runSchedule_append (respond : Nat → (call : Call) → σ → Option (Reply call × σ))
    (first second : List Nat) (w : Workers Call Reply σ α) :
    w.runSchedule respond (first ++ second) =
      (w.runSchedule respond first).runSchedule respond second :=
  List.foldl_append

theorem runSchedule_of_idle {respond : Nat → (call : Call) → σ → Option (Reply call × σ)}
    {w : Workers Call Reply σ α} (schedule : List Nat) (h : ∀ i ∈ schedule, Idle respond w i) :
    w.runSchedule respond schedule = w := by
  induction schedule with
  | nil => rfl
  | cons i schedule ih =>
    have hi : w.turn respond i = w := (h i List.mem_cons_self).turn_eq
    rw [runSchedule, List.foldl_cons, hi]
    exact ih fun j hj => h j (List.mem_cons_of_mem i hj)

/-- What every turn keeps, every schedule keeps. -/
theorem runSchedule_keeps {respond : Nat → (call : Call) → σ → Option (Reply call × σ)}
    {P : Workers Call Reply σ α → Prop} (keep : ∀ w i, P w → P (w.turn respond i))
    (schedule : List Nat) {w : Workers Call Reply σ α} (h : P w) :
    P (w.runSchedule respond schedule) := by
  induction schedule generalizing w with
  | nil => exact h
  | cons i schedule ih => exact ih (keep w i h)

end SceneCatalog.Workers
