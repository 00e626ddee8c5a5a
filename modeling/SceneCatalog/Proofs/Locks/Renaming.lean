import SceneCatalog.Proofs.Association
import SceneCatalog.Proofs.Locks.Turn

/-!
The names of mutexes do not matter. When all names of a lock table are moved up by the same amount,
with those that workers hold leases on, every turn does what it did before the move.
-/
namespace SceneCatalog

namespace LockTable

/-- The table with all names moved up. -/
def shift (k : Nat) (t : LockTable) : LockTable where
  entries := t.entries.map (Prod.map id (· + k))
  mutexes := t.mutexes.map (Prod.map (· + k) id)
  fresh := t.fresh + k

variable (k : Nat) (t : LockTable) (scene : Uuid) (name worker : Nat)

theorem beq_shift (a b : Nat) : (a + k == b + k) = (a == b) := by
  rw [Bool.eq_iff_iff]
  simp

theorem lookup_shift : (t.shift k).entries.lookup scene = (t.entries.lookup scene).map (· + k) := by
  simp only [shift]
  induction t.entries with
  | nil => rfl
  | cons e l ih =>
    rw [List.map_cons, List.lookup_cons, List.lookup_cons, ih]
    cases h : scene == e.1 <;> simp [h]

@[simp] theorem mutex?_shift : (t.shift k).mutex? (name + k) = t.mutex? name := by
  simp only [mutex?, shift]
  induction t.mutexes with
  | nil => rfl
  | cons e l ih =>
    rw [List.map_cons, List.lookup_cons, List.lookup_cons, ih]
    simp [beq_shift]

@[simp] theorem isHeldBy_shift :
    (t.shift k).isHeldBy (name + k) worker = t.isHeldBy name worker := by
  simp [isHeldBy]

@[simp] theorem update_shift (m : Mutex) :
    (t.shift k).update (name + k) m = (t.update name m).shift k := by
  simp only [update, shift, List.map_map, LockTable.mk.injEq, true_and, and_true]
  refine List.map_congr_left fun e _ => ?_
  by_cases he : e.1 = name <;> simp [he]

theorem request_shift :
    (t.shift k).request scene worker =
      ((t.request scene worker).1.shift k, (t.request scene worker).2 + k) := by
  unfold request
  rw [lookup_shift]
  cases t.entries.lookup scene with
  | none => simp [shift, Nat.add_right_comm]
  | some name =>
    simp only [Option.map_some, mutex?_shift, update_shift]
    rcases t.mutex? name with _ | ⟨_ | holder, waiting⟩ <;> rfl

theorem reclaim_shift : (t.shift k).reclaim scene = (t.reclaim scene).shift k := by
  have hbind : ((t.shift k).entries.lookup scene).bind (t.shift k).mutex? =
      (t.entries.lookup scene).bind t.mutex? := by
    rw [lookup_shift]
    cases t.entries.lookup scene <;> simp
  unfold reclaim
  rw [hbind]
  cases (t.entries.lookup scene).bind t.mutex? with
  | none => rfl
  | some m =>
    by_cases h : 1 + m.users ≤ 2
    · simp only [if_pos h, shift, List.filter_map]
      rfl
    · simp only [if_neg h]

theorem unlock_shift : (t.shift k).unlock (name + k) = (t.unlock name).shift k := by
  unfold unlock
  rw [mutex?_shift]
  rcases t.mutex? name with _ | ⟨holder, _ | ⟨next, rest⟩⟩
  · rfl
  · have hany : (t.shift k).entries.any (·.2 == name + k) = t.entries.any (·.2 == name) := by
      simp [shift, List.any_map, Function.comp_def, beq_shift]
    simp only [hany, update_shift]
    split
    · rfl
    · simp [shift, List.filter_map, Function.comp_def]
  · simp

theorem release_shift :
    (t.shift k).release scene (name + k) = (t.release scene name).shift k := by
  rw [release, reclaim_shift, unlock_shift, release]

end LockTable

variable {Call : Type} {Reply : Call → Type} {σ α : Type}

/-- The worker with the name of its lease moved up. -/
def Worker.shift (k : Nat) (worker : Worker Call Reply α) : Worker Call Reply α :=
  { worker with lease := worker.lease.map (· + k) }

namespace Workers

/-- Workers and lock table with all names moved up. -/
def shift (k : Nat) (w : Workers Call Reply σ α) : Workers Call Reply σ α :=
  { w with workers := w.workers.map (Worker.shift k), locks := w.locks.shift k }

variable (k : Nat) (w : Workers Call Reply σ α)

@[simp] theorem results_shift : (w.shift k).results = w.results := by
  simp only [results, shift, List.map_map]
  rfl

theorem put_shift (i : Nat) (worker : Worker Call Reply α) :
    (w.shift k).put i (worker.shift k) = (w.put i worker).shift k := by
  simp [put, shift, List.map_set]

theorem turn_shift (respond : Nat → (call : Call) → σ → Option (Reply call × σ)) (i : Nat) :
    (w.shift k).turn respond i = (w.turn respond i).shift k := by
  have hworker : (w.shift k).workers[i]? = w.workers[i]?.map (Worker.shift k) := by
    simp [shift]
  unfold turn
  rw [hworker]
  rcases w.workers[i]? with _ | ⟨result | ⟨q, next⟩, lease⟩
  · rfl
  · rfl
  -- on both sides the worker is replaced by the same one, up to the name of its lease
  have moved : ∀ (w : Workers Call Reply σ α) (rest : Running Call Reply α) (lease : Option Nat),
      (w.shift k).put i ⟨rest, lease.map (· + k)⟩ = (w.put i ⟨rest, lease⟩).shift k :=
    fun w rest lease => put_shift k w i ⟨rest, lease⟩
  cases q with
  | acquire scene =>
    cases lease with
    | none =>
      have hasked : (w.shift k).locks.request scene i = _ :=
        LockTable.request_shift k w.locks scene i
      simp only [Option.map_some, Worker.shift, Option.map_none, hasked, LockTable.isHeldBy_shift]
      split
      · exact moved { w with locks := (w.locks.request scene i).1 } _ (some _)
      · exact moved { w with locks := (w.locks.request scene i).1 } _ (some _)
    | some name =>
      have hheld : (w.shift k).locks.isHeldBy (name + k) i = w.locks.isHeldBy name i :=
        LockTable.isHeldBy_shift k w.locks name i
      simp only [Option.map_some, Worker.shift, hheld]
      split
      · exact moved w _ (some name)
      · rfl
  | release scene =>
    cases lease with
    | none => exact moved w _ none
    | some name =>
      have hreleased : (w.shift k).locks.release scene (name + k) = _ :=
        LockTable.release_shift k w.locks scene name
      simp only [Option.map_some, Worker.shift, hreleased]
      exact moved { w with locks := w.locks.release scene name } _ none
  | call c =>
    have hstate : (w.shift k).state = w.state := rfl
    simp only [Option.map_some, Worker.shift, hstate]
    cases respond i c w.state with
    | none => rfl
    | some answer => exact moved { w with state := answer.2, asked := w.asked ++ [(i, c)] } _ lease

theorem runSchedule_shift (respond : Nat → (call : Call) → σ → Option (Reply call × σ))
    (schedule : List Nat) :
    (w.shift k).runSchedule respond schedule = (w.runSchedule respond schedule).shift k := by
  induction schedule generalizing w with
  | nil => rfl
  | cons i schedule ih =>
    change runSchedule respond schedule ((w.shift k).turn respond i) = _
    rw [turn_shift, ih]
    rfl

end Workers

end SceneCatalog
