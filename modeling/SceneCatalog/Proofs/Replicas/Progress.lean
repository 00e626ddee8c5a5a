import Mathlib.Data.List.Perm.Basic
import Mathlib.Logic.Hydra
import SceneCatalog.Proofs.Locks.Completion
import SceneCatalog.Proofs.Replicas.Serial
import SceneCatalog.Proofs.Sql.Discipline

/-!
Calls in several catalogs over one database come to their end. Two kinds of locks are waited for,
those of catalogs and those of rows, but never in a circle: whoever has the lock of a row waits for
nothing, and when no row is locked, the head of a line can go on. A turn that changes anything
brings a worker further, and no worker can be brought further for ever, however many records it has
to write.
-/
namespace SceneCatalog

variable {Call : Type} {Reply : Call → Type} {σ α : Type}

/-! ## Coming further -/

/-- A worker has come further: its question was answered, or it has got into the line for a lock. -/
def Worker.Further (worker old : Worker Call Reply α) : Prop :=
  (∃ q next answer, old.rest = .ask q next ∧ worker.rest = next answer) ∨
    (worker.rest = old.rest ∧ old.lease = none ∧ worker.lease.isSome)

/-- A worker that cannot come further for ever once its question is answered cannot at all: before
that it can get into a line, and no more. -/
theorem Worker.acc_further {rest : Running Call Reply α}
    (answered : ∀ q next answer lease, rest = .ask q next →
      Acc Worker.Further (⟨next answer, lease⟩ : Worker Call Reply α)) (lease : Option Nat) :
    Acc Worker.Further ⟨rest, lease⟩ := by
  have leased : ∀ name, Acc Worker.Further (⟨rest, some name⟩ : Worker Call Reply α) := by
    refine fun name => ⟨_, fun ⟨rest', lease'⟩ h => ?_⟩
    rcases h with ⟨q, next, answer, hq, rfl⟩ | ⟨-, hl, -⟩
    · exact answered q next answer lease' hq
    · cases hl
  refine ⟨_, fun ⟨rest', lease'⟩ h => ?_⟩
  rcases h with ⟨q, next, answer, hq, rfl⟩ | ⟨rfl, -, hl⟩
  · exact answered q next answer lease' hq
  · obtain ⟨name, rfl⟩ := Option.isSome_iff_exists.mp hl
    exact leased name

/-- No worker comes further for ever. -/
theorem Worker.wellFounded_further :
    WellFounded (Worker.Further : Worker Call Reply α → Worker Call Reply α → Prop) := by
  refine ⟨fun ⟨rest, lease⟩ => ?_⟩
  induction rest generalizing lease with
  | done a =>
    refine acc_further (fun q next answer lease' h => ?_) lease
    cases h
  | ask q next ih =>
    refine acc_further (fun q' next' answer lease' h => ?_) lease
    cases h
    exact ih answer lease'

namespace Workers

variable {respond respond' : Nat → (call : Call) → σ → Option (Reply call × σ)}
  {w w' : Workers Call Reply σ α} {i : Nat}

/-- A turn of a worker that does not find it idle brings it further. -/
theorem Turn.further (t : Turn respond w i w') (busy : ¬ Idle respond w i) :
    ∃ old worker, w.workers[i]? = some old ∧ w'.workers = w.workers.set i worker ∧
      worker.Further old := by
  cases t with
  | idle why => exact absurd why busy
  | granted here held => exact ⟨_, _, here, rfl, Or.inl ⟨_, _, _, rfl, rfl⟩⟩
  | queued here held => exact ⟨_, _, here, rfl, Or.inr ⟨rfl, rfl, rfl⟩⟩
  | woken here held => exact ⟨_, _, here, rfl, Or.inl ⟨_, _, _, rfl, rfl⟩⟩
  | released here => exact ⟨_, _, here, rfl, Or.inl ⟨_, _, _, rfl, rfl⟩⟩
  | unheld here => exact ⟨_, _, here, rfl, Or.inl ⟨_, _, _, rfl, rfl⟩⟩
  | called here answer => exact ⟨_, _, here, rfl, Or.inl ⟨_, _, _, rfl, rfl⟩⟩

/-! ## The workers of one catalog -/

section Only

variable (mine : Nat → Bool) (gone : α)

/-- The workers that pass a test, where the others count as done. -/
def only (w : Workers Call Reply σ α) : Workers Call Reply σ α :=
  { w with workers := w.workers.mapIdx fun i worker =>
      if mine i then worker else ⟨.done gone, none⟩ }

variable {mine}

theorem workers_only (w : Workers Call Reply σ α) (hi : mine i = true) :
    (w.only mine gone).workers[i]? = w.workers[i]? := by
  simp [only, hi]

theorem put_only (hi : mine i = true) (worker : Worker Call Reply α) :
    (w.put i worker).only mine gone = (w.only mine gone).put i worker := by
  simp [only, put, hi]

theorem Idle.only (h : Idle respond w i) (hi : mine i = true) :
    Idle respond (w.only mine gone) i := by
  have hw := workers_only gone w hi
  cases h with
  | missing here => exact .missing (hw.trans here)
  | ended here => exact .ended (hw.trans here)
  | waiting here free => exact .waiting (hw.trans here) free
  | blocked here silent => exact .blocked (hw.trans here) silent

theorem Turn.only (t : Turn respond w i w') (hi : mine i = true) :
    Turn respond (w.only mine gone) i (w'.only mine gone) := by
  have hw := workers_only gone w hi
  cases t with
  | idle why => exact .idle (why.only gone hi)
  | granted here held =>
    rw [put_only gone hi]
    exact .granted (hw.trans here) held
  | queued here held =>
    rw [put_only gone hi]
    exact .queued (hw.trans here) held
  | woken here held =>
    rw [put_only gone hi]
    exact .woken (hw.trans here) held
  | released here =>
    rw [put_only gone hi]
    exact .released (hw.trans here)
  | unheld here =>
    rw [put_only gone hi]
    exact .unheld (hw.trans here)
  | called here answer =>
    rw [put_only gone hi]
    exact .called (hw.trans here) answer

@[simp] theorem length_only (w : Workers Call Reply σ α) :
    (w.only mine gone).workers.length = w.workers.length :=
  List.length_mapIdx

theorem workers_only_of_not (hi : mine i = false) (lt : i < w.workers.length) :
    (w.only mine gone).workers[i]? = some ⟨.done gone, none⟩ := by
  simp [only, hi, lt]

/-- What happens to a worker that does not pass does not show. -/
theorem put_only_of_not (hi : mine i = false) (worker : Worker Call Reply α) :
    ((w.put i worker).only mine gone).workers = (w.only mine gone).workers := by
  refine List.ext_getElem? fun j => ?_
  by_cases hj : j = i
  · subst hj
    simp only [only, put, List.getElem?_mapIdx, List.getElem?_set_self', hi]
    cases w.workers[j]? <;> rfl
  · simp only [only, put, List.getElem?_mapIdx, List.getElem?_set_ne (Ne.symm hj)]

theorem turn_only_of_not (hi : mine i = false) :
    ((w.turn respond i).only mine gone).workers = (w.only mine gone).workers := by
  have t := turn_spec respond w i
  generalize w.turn respond i = w' at t ⊢
  cases t with
  | idle why => rfl
  | _ => exact put_only_of_not gone hi _

end Only

/-- What the answering side does has nothing to do with the lock table. -/
theorem Agree.of_eq {scene : Nat → Uuid} (h : Agree scene w) (workers : w'.workers = w.workers)
    (locks : w'.locks = w.locks) : Agree scene w' := by
  cases w
  cases w'
  cases workers
  cases locks
  exact ⟨h.sound, h.nodup, h.engaged, h.named, h.fits⟩

/-- A worker that is idle without waiting for an answer is idle whoever answers. -/
theorem Idle.of_answers (h : Idle respond w i) (answers : ∀ call, respond i call w.state ≠ none) :
    Idle respond' w i := by
  cases h with
  | missing here => exact .missing here
  | ended here => exact .ended here
  | waiting here free => exact .waiting here free
  | blocked here silent => exact absurd silent (answers _)

end Workers

namespace Replicas

section Runs

variable {respond : Nat → (call : Call) → σ → Option (Reply call × σ)} {home : Nat → Nat}
  {r : Replicas Call Reply σ α} {scene : Nat → Uuid} {gone : α}

/-- Each lock table agrees with the workers of its catalog. -/
def Agree (scene : Nat → Uuid) (home : Nat → Nat) (gone : α) (r : Replicas Call Reply σ α) :
    Prop :=
  ∀ catalog, Workers.Agree scene
    ((r.inCatalog catalog).only (fun i => decide (home i = catalog)) gone)

theorem inCatalog_put (r : Replicas Call Reply σ α) (catalog : Nat) (w : Workers Call Reply σ α) :
    (r.putCatalog catalog w).inCatalog catalog = w := by
  simp [inCatalog, putCatalog]

theorem Agree.turn (h : Agree scene home gone r) (i : Nat) :
    Agree scene home gone (r.turn home respond i) := by
  intro catalog
  by_cases hi : home i = catalog
  · subst hi
    rw [Replicas.turn, inCatalog_put]
    exact (h (home i)).turn ((Workers.turn_spec respond _ i).only gone (decide_eq_true rfl))
  · refine (h catalog).of_eq ?_ (if_neg (Ne.symm hi))
    exact Workers.turn_only_of_not (w := r.inCatalog (home i)) gone (decide_eq_false hi)

theorem agree_start {calls : List (Running Call Reply α)}
    (orderly : ∀ i call, calls[i]? = some call →
      Running.Asking (scene i) call ∨ Running.Free call) (state : σ) :
    Agree scene home gone (start calls state) := by
  intro catalog
  let mine : List (Running Call Reply α) :=
    calls.mapIdx fun i call => if home i = catalog then call else .done gone
  have hmine : ∀ i call, mine[i]? = some call →
      Running.Asking (scene i) call ∨ Running.Free call := by
    intro i call hc
    rw [List.getElem?_mapIdx, Option.map_eq_some_iff] at hc
    obtain ⟨call', hc', rfl⟩ := hc
    split
    · exact orderly i call' hc'
    · exact Or.inr trivial
  refine (Workers.agree_start hmine state).of_eq (List.ext_getElem? fun i => ?_) rfl
  simp only [mine, start, inCatalog, Workers.only, Workers.start, List.getElem?_mapIdx,
    List.getElem?_map, Option.map_map, Function.comp_def, decide_eq_true_eq]
  congr 1
  funext call
  split <;> rfl

/-! ## A run goes on until all calls are over -/

/-- A turn that does not find its worker idle brings the workers further together. -/
theorem turn_further {i : Nat} (busy : ¬ Workers.Idle respond (r.inCatalog (home i)) i) :
    Relation.CutExpand Worker.Further
      ((r.turn home respond i).workers : Multiset (Worker Call Reply α)) r.workers := by
  obtain ⟨old, worker, here, hset, further⟩ :=
    (Workers.turn_spec respond (r.inCatalog (home i)) i).further busy
  obtain ⟨hi, rfl⟩ := List.getElem?_eq_some_iff.mp here
  refine ⟨{worker}, r.workers[i], fun a ha => Multiset.mem_singleton.mp ha ▸ further, ?_⟩
  -- on both sides there are the old worker, the new one, and all the others
  have after : ((r.turn home respond i).workers : Multiset _) =
      worker ::ₘ (r.workers.eraseIdx i : Multiset _) :=
    (congrArg _ hset).trans (Multiset.coe_eq_coe.mpr (List.set_perm_cons_eraseIdx hi worker))
  have before : (r.workers : Multiset _) = r.workers[i] ::ₘ (r.workers.eraseIdx i : Multiset _) :=
    Multiset.coe_eq_coe.mpr (List.getElem_cons_eraseIdx_perm hi).symm
  rw [after, before, Multiset.add_comm, Multiset.singleton_add, Multiset.add_comm _ {worker},
    Multiset.singleton_add, Multiset.cons_swap]

/-- When workers can all be idle at the end only, every run can be brought to its end. -/
theorem exists_over {P : Replicas Call Reply σ α → Prop}
    (keep : ∀ r i, P r → P (r.turn home respond i))
    (live : ∀ r, P r → (∀ i, Workers.Idle respond (r.inCatalog (home i)) i) → r.Over) (h : P r) :
    ∃ more, (r.runSchedule home respond more).Over := by
  induction hm : (r.workers : Multiset (Worker Call Reply α)) using
    Worker.wellFounded_further.cutExpand.induction generalizing r with
  | _ workers ih =>
    by_cases busy : ∃ i, ¬ Workers.Idle respond (r.inCatalog (home i)) i
    · obtain ⟨i, hi⟩ := busy
      obtain ⟨more, ended⟩ := ih _ (hm ▸ turn_further hi) (keep r i h) rfl
      exact ⟨i :: more, ended⟩
    · exact ⟨[], live r h fun i => Classical.not_not.mp fun hi => busy ⟨i, hi⟩⟩

end Runs

/-! ## Nobody waits for ever -/

section Database

open Sql Database

variable {home : Nat → Nat} {gone : α} {p : Plan α}
  {r : Replicas Statement Statement.Reply Database α} {i : Nat}

theorem respond_of_unlocked {db : Database} (unlocked : ∀ s, db.rowLocks s = none) (i : Nat)
    (call : Statement) : respond i call db ≠ none := by
  have through : db.mustWait i call = false := by
    rw [mustWait]
    cases call.locks? with
    | none => rfl
    | some s => simp [unlocked]
  rw [respond, through]
  exact Option.some_ne_none _

/-- Whoever has the lock of a row waits for nothing. -/
theorem Plan.Tracks.unlocked_of_idle (h : p.Tracks r)
    (idle : ∀ i, Workers.Idle respond (r.inCatalog (home i)) i) (s : Uuid) :
    r.state.rowLocks s = none := by
  cases hl : r.state.rowLocks s with
  | none => rfl
  | some i =>
    exfalso
    obtain ⟨-, rest, t, hrest, -, leads⟩ := h.holds s i hl
    have rest_eq : ∀ {rest' lease}, r.workers[i]? = some ⟨rest', lease⟩ → rest = rest' :=
      fun here => Option.some.inj (hrest.symm.trans (rest?_of_workers here))
    cases idle i with
    | missing here =>
      rw [rest?, show r.workers[i]? = none from here] at hrest
      cases hrest
    | ended here =>
      obtain rfl := rest_eq here
      exact leads
    | waiting here free =>
      obtain rfl := rest_eq here
      exact leads
    | @blocked call next lease here silent =>
      obtain rfl := rest_eq here
      cases call with
      | lockScene s => exact leads
      | _ => exact absurd silent (Option.some_ne_none _)

/-- Workers can all be idle at the end only. -/
theorem Plan.Tracks.over_of_idle (h : p.Tracks r) (agree : Agree p.scene home gone r)
    (idle : ∀ i, Workers.Idle respond (r.inCatalog (home i)) i) : r.Over := by
  have answers := respond_of_unlocked (h.unlocked_of_idle idle)
  intro result hr
  obtain ⟨worker, hw, rfl⟩ := List.mem_map.mp hr
  obtain ⟨i, hi⟩ := List.mem_iff_getElem?.mp hw
  let mine : Nat → Bool := fun j => decide (home j = home i)
  let answering : Nat → (call : Statement) → Database → Option (call.Reply × Database) :=
    fun j call db => some (answer j call db)
  -- with no row locked, those who wait do so for locks of their catalog
  have waiting : ∀ j < ((r.inCatalog (home i)).only mine gone).workers.length,
      Workers.Idle answering ((r.inCatalog (home i)).only mine gone) j := by
    intro j hj
    by_cases hmine : home j = home i
    · have hidle := idle j
      rw [hmine] at hidle
      exact (hidle.of_answers (answers j)).only gone (decide_eq_true hmine)
    · rw [Workers.length_only] at hj
      exact .ended (Workers.workers_only_of_not gone (decide_eq_false hmine) hj)
  have ended : ((r.inCatalog (home i)).only mine gone).Over :=
    (agree (home i)).over_of_idle (fun _ _ _ => Option.some_ne_none _) waiting
  have here : ((r.inCatalog (home i)).only mine gone).workers[i]? = some worker :=
    (Workers.workers_only gone _ (decide_eq_true rfl)).trans hi
  exact ended _ (List.mem_map.mpr ⟨worker, List.mem_of_getElem? here, rfl⟩)

end Database

end Replicas
end SceneCatalog
