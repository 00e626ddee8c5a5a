import Mathlib.Algebra.Order.BigOperators.Group.Finset
import SceneCatalog.Proofs.Locks.Exclusion

/-!
Changes that run side by side come to their end. A turn either leaves everything as it is or takes
something off what the workers still have to do. When nobody can go on, and no call of the store
has to wait, nobody has anything left to do: the head of a line can always go on.
-/
namespace SceneCatalog

variable {Call : Type} {Reply : Call → Type} {σ α : Type}

/-- A worker that is over after at most `n` turns in which it does something. A worker that is in
the line for a lock has had the first of the two turns that this takes. -/
def Worker.Due (n : Nat) (worker : Worker Call Reply α) : Prop :=
  Running.Within n worker.rest ∨
    ∃ scene next k, worker.rest = .ask (.acquire scene) next ∧ worker.lease.isSome ∧ k < n ∧
      Running.Within k (next ())

theorem Worker.Due.next {n : Nat} {q : Ask Call}
    {next : q.Answer Reply → Running Call Reply α} {lease : Option Nat}
    (h : Worker.Due n ⟨.ask q next, lease⟩) :
    ∃ k < n, ∀ answer, Running.Within k (next answer) := by
  rcases h with h | ⟨scene, next', k, hrest, -, hlt, hk⟩
  · exact h.next
  · cases hrest
    exact ⟨k, hlt, fun _ => hk⟩

namespace Workers

/-- Every worker is over after at most so many turns in which it does something. -/
def Owes (due : Nat → Nat) (w : Workers Call Reply σ α) : Prop :=
  ∀ i (worker : Worker Call Reply α), w.workers[i]? = some worker → worker.Due (due i)

variable {respond : Nat → (call : Call) → σ → Option (Reply call × σ)}
  {w w' : Workers Call Reply σ α} {i n : Nat} {due : Nat → Nat}

/-! ## Turns and rounds -/

/-- Replaces a worker by one that has less to do. -/
theorem Owes.put (h : Owes due w) {old worker : Worker Call Reply α} {k : Nat}
    (here : w.workers[i]? = some old) (left : worker.Due k) (locks : LockTable) (state : σ)
    (asked : List (Nat × Call)) :
    Owes (Function.update due i k)
      ((⟨w.workers, locks, state, asked⟩ : Workers Call Reply σ α).put i worker) := by
  intro j other hj
  rcases of_workers_put hj with ⟨rfl, rfl⟩ | ⟨hne, hj⟩
  · rw [Function.update_self]
    exact left
  · rw [Function.update_of_ne hne]
    exact h j other hj

/-- A turn of a worker either finds it idle or takes something off what it has to do. -/
theorem Owes.turn (h : Owes due w) (t : Turn respond w i w') :
    (w' = w ∧ Idle respond w i) ∨ ∃ k < due i, Owes (Function.update due i k) w' := by
  cases t with
  | idle why => exact Or.inl ⟨rfl, why⟩
  | granted here held =>
    obtain ⟨k, hlt, hk⟩ := (h i _ here).next
    exact Or.inr ⟨k, hlt, h.put here (Or.inl (hk ())) _ _ _⟩
  | @queued scene next here held =>
    -- the question stays; what goes is the turn for getting into the line
    rcases h i _ here with ⟨k, hk, hnext⟩ | ⟨_, _, _, _, hl, -⟩
    · have hk : k + 2 ≤ due i := hk
      refine Or.inr ⟨k + 1, by omega, h.put here (Or.inr ?_) _ _ _⟩
      exact ⟨scene, next, k, rfl, rfl, by omega, hnext ()⟩
    · cases hl
  | woken here held =>
    obtain ⟨k, hlt, hk⟩ := (h i _ here).next
    exact Or.inr ⟨k, hlt, h.put here (Or.inl (hk ())) _ _ _⟩
  | released here =>
    obtain ⟨k, hlt, hk⟩ := (h i _ here).next
    exact Or.inr ⟨k, hlt, h.put here (Or.inl (hk ())) _ _ _⟩
  | unheld here =>
    obtain ⟨k, hlt, hk⟩ := (h i _ here).next
    exact Or.inr ⟨k, hlt, h.put here (Or.inl (hk ())) _ _ _⟩
  | called here answer =>
    obtain ⟨k, hlt, hk⟩ := (h i _ here).next
    exact Or.inr ⟨k, hlt, h.put here (Or.inl (hk _)) _ _ _⟩

/-- Turns of the first `n` workers either find them all idle or take something off what they have
to do together. -/
theorem Owes.run (h : Owes due w)
    (respond : Nat → (call : Call) → σ → Option (Reply call × σ)) (schedule : List Nat)
    (below : ∀ i ∈ schedule, i < n) :
    (w.runSchedule respond schedule = w ∧ ∀ i ∈ schedule, Idle respond w i) ∨
      ∃ due', Owes due' (w.runSchedule respond schedule) ∧
        ∑ i ∈ Finset.range n, due' i < ∑ i ∈ Finset.range n, due i := by
  induction schedule generalizing w due with
  | nil => exact Or.inl ⟨rfl, fun i hi => absurd hi List.not_mem_nil⟩
  | cons i schedule ih =>
    have hi : i ∈ Finset.range n := Finset.mem_range.mpr (below i List.mem_cons_self)
    have hbelow := fun j hj => below j (List.mem_cons_of_mem i hj)
    change (runSchedule respond schedule (w.turn respond i) = w ∧ _) ∨
      ∃ due', Owes due' (runSchedule respond schedule (w.turn respond i)) ∧ _
    rcases h.turn (turn_spec respond w i) with ⟨hw, hidle⟩ | ⟨k, hlt, hk⟩
    · rw [hw]
      rcases ih h hbelow with ⟨hrun, hrest⟩ | hrun
      · refine Or.inl ⟨hrun, fun j hj => ?_⟩
        rcases List.mem_cons.mp hj with rfl | hj
        · exact hidle
        · exact hrest j hj
      · exact Or.inr hrun
    · -- the sum has gone down with this turn, and no later turn brings it up again
      have hsum : ∑ j ∈ Finset.range n, Function.update due i k j <
          ∑ j ∈ Finset.range n, due j := by
        refine Finset.sum_lt_sum (fun j _ => ?_) ⟨i, hi, ?_⟩
        · by_cases hj : j = i
          · subst hj
            rw [Function.update_self]
            exact hlt.le
          · rw [Function.update_of_ne hj]
        · rwa [Function.update_self]
      rcases ih hk hbelow with ⟨hrun, -⟩ | ⟨due', howes, hless⟩
      · rw [hrun]
        exact Or.inr ⟨_, hk, hsum⟩
      · exact Or.inr ⟨due', howes, hless.trans hsum⟩

/-- As many rounds as there is to do leave every worker idle. -/
theorem Owes.rounds (h : Owes due w)
    (respond : Nat → (call : Call) → σ → Option (Reply call × σ)) {count : Nat}
    (enough : ∑ i ∈ Finset.range n, due i ≤ count) :
    ∀ i < n, Idle respond
      (w.runSchedule respond (List.replicate count (List.range n)).flatten) i := by
  have below : ∀ i ∈ List.range n, i < n := fun i hi => List.mem_range.mp hi
  induction count generalizing w due with
  | zero =>
    rcases h.run respond (List.range n) below with ⟨-, hidle⟩ | ⟨due', -, hless⟩
    · exact fun i hi => hidle i (List.mem_range.mpr hi)
    · omega
  | succ count ih =>
    rw [List.replicate_succ, List.flatten_cons, runSchedule_append]
    rcases h.run respond (List.range n) below with ⟨hrun, hidle⟩ | ⟨due', h', hless⟩
    · have hmore : w.runSchedule respond (List.replicate count (List.range n)).flatten = w := by
        refine runSchedule_of_idle _ fun i hi => hidle i ?_
        obtain ⟨l, hl, hi⟩ := List.mem_flatten.mp hi
        rwa [List.eq_of_mem_replicate hl] at hi
      rw [hrun, hmore]
      exact fun i hi => hidle i (List.mem_range.mpr hi)
    · exact ih h' (by omega)

/-! ## Nobody waits for ever -/

variable {scene : Nat → Uuid}

/-- When no call has to wait and every worker is idle, every worker is done. -/
theorem Agree.over_of_idle (h : Agree scene w)
    (answers : ∀ i call state, respond i call state ≠ none)
    (idle : ∀ i < w.workers.length, Idle respond w i) : w.Over := by
  have hidle : ∀ {i rest lease}, w.workers[i]? = some ⟨rest, lease⟩ →
      (∃ result, rest = .done result) ∨ ∃ s next name, rest = .ask (.acquire s) next ∧
        lease = some name ∧ w.locks.isHeldBy name i = false := by
    intro i rest lease hw
    obtain ⟨hi, -⟩ := List.getElem?_eq_some_iff.mp hw
    cases idle i hi with
    | missing here =>
      rw [here] at hw
      cases hw
    | ended here =>
      rw [here] at hw
      cases hw
      exact Or.inl ⟨_, rfl⟩
    | waiting here free =>
      rw [here] at hw
      cases hw
      exact Or.inr ⟨_, _, _, rfl, rfl, free⟩
    | blocked here silent => exact absurd silent (answers _ _ _)
  intro result hr
  obtain ⟨⟨rest, lease⟩, hm, rfl⟩ := List.mem_map.mp hr
  obtain ⟨i, hi⟩ := List.mem_iff_getElem?.mp hm
  rcases hidle hi with ⟨a, rfl⟩ | ⟨s, next, name, rfl, rfl, -⟩
  · rfl
  · -- the head of the line that worker `i` stands in is done, or waits for what it has
    have hmem : i ∈ w.locks.line (scene i) := (h.engaged _ i).mpr ⟨_, _, hi, rfl⟩
    obtain ⟨j, waiting, hline⟩ := List.exists_cons_of_ne_nil (List.ne_nil_of_mem hmem)
    have hhead : (w.locks.line (scene i)).head? = some j := by rw [hline]; rfl
    obtain ⟨rest', name', hj, hs⟩ := (h.engaged (scene i) j).mp (hline ▸ List.mem_cons_self)
    rcases hidle hj with ⟨a, rfl⟩ | ⟨s', next', name'', rfl, hname, hfree⟩
    · exfalso
      rcases h.fits j _ hj with hf | ⟨hf, -⟩ | ⟨-, hl⟩
      · exact hf
      · exact hf
      · cases hl
    · cases hname
      rw [← hs] at hhead
      rw [(h.sound.isHeldBy_iff (h.named j _ _ hj)).mpr hhead] at hfree
      cases hfree

/-! ## Changes side by side -/

theorem owes_ofChanges (calls : List (Change × Timestamp)) (state : σ) :
    Owes (fun _ => 8) (ofChanges calls state) := by
  intro i worker hw
  obtain ⟨⟨change, now⟩, -, rfl⟩ := of_ofChanges hw
  exact Or.inl (change.within now)

/-- What is to do never grows. -/
theorem Owes.bounded (h : Owes due w)
    (respond : Nat → (call : Call) → σ → Option (Reply call × σ)) {bound : Nat}
    (hdue : ∀ i, due i ≤ bound) (schedule : List Nat) :
    ∃ due', Owes due' (w.runSchedule respond schedule) ∧ ∀ i, due' i ≤ bound := by
  refine runSchedule_keeps (P := fun w => ∃ due', Owes due' w ∧ ∀ i, due' i ≤ bound) ?_ schedule
    ⟨due, h, hdue⟩
  rintro w i ⟨due', h', hdue'⟩
  rcases h'.turn (turn_spec respond w i) with ⟨hw, -⟩ | ⟨k, hlt, hk⟩
  · exact ⟨due', hw.symm ▸ h', hdue'⟩
  · refine ⟨_, hk, fun j => ?_⟩
    by_cases hj : j = i
    · subst hj
      rw [Function.update_self]
      exact hlt.le.trans (hdue' j)
    · rw [Function.update_of_ne hj]
      exact hdue' j

/-- **Every run can be brought to its end.** Whatever has happened so far, a fair end of the
schedule lets all changes finish, over any store whose calls do not have to wait. -/
theorem completes {respond : Nat → (call : StoreCall) → σ → Option (call.Reply × σ)}
    (answers : ∀ i call state, respond i call state ≠ none) (state : σ)
    (calls : List (Change × Timestamp)) (schedule : List Nat) :
    ((ofChanges calls state).runSchedule respond (schedule ++ rounds calls.length)).Over := by
  have hlen : ((ofChanges calls state).runSchedule respond schedule).workers.length =
      calls.length := by
    rw [length_runSchedule, length_ofChanges]
  obtain ⟨due, howes, hdue⟩ := (owes_ofChanges calls state).bounded respond
    (fun _ => Nat.le_refl 8) schedule
  have hsum : ∑ i ∈ Finset.range calls.length, due i ≤ 8 * calls.length := by
    calc ∑ i ∈ Finset.range calls.length, due i
        ≤ ∑ _i ∈ Finset.range calls.length, 8 := Finset.sum_le_sum fun i _ => hdue i
      _ = 8 * calls.length := by simp [Nat.mul_comm]
  rw [runSchedule_append]
  refine (((agree_ofChanges calls state).run schedule).run _).over_of_idle answers ?_
  rw [length_runSchedule, hlen]
  exact howes.rounds respond hsum

end Workers
end SceneCatalog
