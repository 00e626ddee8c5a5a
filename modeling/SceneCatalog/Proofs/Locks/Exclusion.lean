import Mathlib.Data.Finset.Card
import Mathlib.Data.Finset.Dedup
import SceneCatalog.Proofs.Locks.Discipline
import SceneCatalog.Proofs.Locks.Table
import SceneCatalog.Proofs.Locks.Turn

/-!
Calls that run side by side and the lock table never disagree. Main statement: in every state of
every run of changes, over any store that may fail or wait at any call, at most one call is inside
the section of a scene, whoever holds or awaits a lock refers to the mutex that the table has for
the scene, and the table has one entry for each scene that somebody holds or awaits.
-/
namespace SceneCatalog

variable {Call : Type} {Reply : Call → Type} {σ α : Type}

/-- How far a worker has come with the lock of its scene, given the line for that lock: it has
still to get the lock, or is at the head of the line and will give it back, or is through. -/
def Worker.Fits (scene : Uuid) (line : List Nat) (i : Nat) (worker : Worker Call Reply α) : Prop :=
  Running.Asking scene worker.rest ∨
    (Running.Holding scene worker.rest ∧ worker.lease.isSome ∧ line.head? = some i) ∨
    (Running.Free worker.rest ∧ worker.lease = none)

theorem Worker.Fits.mono {scene : Uuid} {line line' : List Nat} {i : Nat}
    {worker : Worker Call Reply α} (h : worker.Fits scene line i)
    (head : line.head? = some i → line'.head? = some i) : worker.Fits scene line' i := by
  rcases h with h | ⟨h, hl, hh⟩ | h
  · exact Or.inl h
  · exact Or.inr (Or.inl ⟨h, hl, head hh⟩)
  · exact Or.inr (Or.inr h)

namespace Workers

/-- The lock table and the workers agree, where worker `i` is about `scene i`: the line of a scene
has exactly the workers with a lease on it, a lease names the mutex of the scene, and only the head
of a line has gone on. -/
structure Agree (scene : Nat → Uuid) (w : Workers Call Reply σ α) : Prop where
  sound : w.locks.Sound
  nodup : ∀ s, (w.locks.line s).Nodup
  engaged : ∀ s i, i ∈ w.locks.line s ↔
    ∃ rest name, w.workers[i]? = some ⟨rest, some name⟩ ∧ scene i = s
  named : ∀ i rest name, w.workers[i]? = some ⟨rest, some name⟩ →
    w.locks.entries.lookup (scene i) = some name
  fits : ∀ i (worker : Worker Call Reply α), w.workers[i]? = some worker →
    worker.Fits (scene i) (w.locks.line (scene i)) i

variable {scene : Nat → Uuid} {w : Workers Call Reply σ α} {i : Nat}

/-! ## Steps -/

theorem Agree.not_mem_line (h : Agree scene w) {rest : Running Call Reply α}
    (here : w.workers[i]? = some ⟨rest, none⟩) (s : Uuid) : i ∉ w.locks.line s := by
  rw [h.engaged]
  rintro ⟨rest', name, hw, -⟩
  rw [here] at hw
  cases hw

/-- A worker stands in the line of its own scene only. -/
theorem Agree.scene_of_mem_line (h : Agree scene w) {s : Uuid} (hi : i ∈ w.locks.line s) :
    scene i = s := by
  obtain ⟨_, _, -, hs⟩ := (h.engaged s i).mp hi
  exact hs

/-- A worker that keeps its lease, and its place in the line. -/
theorem Agree.keep (h : Agree scene w) {rest rest' : Running Call Reply α} {lease : Option Nat}
    (here : w.workers[i]? = some ⟨rest, lease⟩)
    (fits : Worker.Fits (scene i) (w.locks.line (scene i)) i ⟨rest', lease⟩)
    (state : σ) (asked : List (Nat × Call)) :
    Agree scene ({ w with state, asked }.put i ⟨rest', lease⟩) := by
  refine ⟨h.sound, h.nodup, ?_, ?_, ?_⟩
  · intro s j
    rw [locks_put, h.engaged]
    by_cases hj : j = i
    · subst hj
      rw [workers_put_self here, here]
      constructor
      · rintro ⟨_, name, hw, hs⟩
        cases hw
        exact ⟨_, _, rfl, hs⟩
      · rintro ⟨_, name, hw, hs⟩
        cases hw
        exact ⟨_, _, rfl, hs⟩
    · rw [workers_put_ne hj]
  · intro j other name hw
    rcases of_workers_put hw with ⟨rfl, hworker⟩ | ⟨-, hw⟩
    · cases hworker
      exact h.named _ _ _ here
    · exact h.named j other name hw
  · intro j worker hw
    rcases of_workers_put hw with ⟨rfl, rfl⟩ | ⟨-, hw⟩
    · exact fits
    · exact h.fits j worker hw

/-- A worker that puts itself at the end of the line of its scene. -/
theorem Agree.ask (h : Agree scene w) {rest rest' : Running Call Reply α} {locks : LockTable}
    {name : Nat} (here : w.workers[i]? = some ⟨rest, none⟩)
    (asked : LockTable.Asked w.locks locks (scene i) name i)
    (fits : Worker.Fits (scene i) (w.locks.line (scene i) ++ [i]) i ⟨rest', some name⟩) :
    Agree scene ({ w with locks }.put i ⟨rest', some name⟩) := by
  have hnew : i ∉ w.locks.line (scene i) := h.not_mem_line here _
  refine ⟨asked.sound, ?_, ?_, ?_, ?_⟩
  · intro s
    by_cases hs : s = scene i
    · rw [hs, locks_put, asked.line, List.nodup_append_comm]
      simpa using ⟨hnew, h.nodup (scene i)⟩
    · rw [locks_put, asked.others s hs]
      exact h.nodup s
  · intro s j
    have hline : j ∈ locks.line s ↔ j ∈ w.locks.line s ∨ (j = i ∧ s = scene i) := by
      by_cases hs : s = scene i
      · rw [hs, asked.line]
        simp
      · rw [asked.others s hs]
        simp [hs]
    rw [locks_put, hline]
    by_cases hj : j = i
    · subst hj
      rw [workers_put_self here]
      constructor
      · rintro (hm | ⟨-, hs⟩)
        · exact absurd hm (h.not_mem_line here s)
        · exact ⟨_, _, rfl, hs.symm⟩
      · rintro ⟨_, _, -, hs⟩
        exact Or.inr ⟨rfl, hs.symm⟩
    · rw [workers_put_ne hj, h.engaged]
      simp [hj]
  · intro j other n hw
    rcases of_workers_put hw with ⟨rfl, hworker⟩ | ⟨-, hw⟩
    · cases hworker
      exact asked.named
    · exact asked.kept _ _ (h.named j other n hw)
  · intro j worker hw
    rcases of_workers_put hw with ⟨rfl, rfl⟩ | ⟨-, hw⟩
    · rw [locks_put, asked.line]
      exact fits
    · -- whoever was at the head of the line stays there, since the newcomer is at its end
      refine (h.fits j worker hw).mono fun hhead => ?_
      by_cases hs : scene j = scene i
      · rw [hs] at hhead ⊢
        rw [locks_put, asked.line, List.head?_append, hhead]
        rfl
      · rw [locks_put, asked.others _ hs]
        exact hhead

/-- The head of the line of a scene that leaves it. -/
theorem Agree.leave (h : Agree scene w) {rest rest' : Running Call Reply α} {name : Nat}
    (here : w.workers[i]? = some ⟨rest, some name⟩)
    (head : (w.locks.line (scene i)).head? = some i) (free : Running.Free rest') :
    Agree scene ({ w with locks := w.locks.release (scene i) name }.put i ⟨rest', none⟩) := by
  have r := h.sound.release (h.named i rest name here)
  obtain ⟨waiting, hline⟩ : ∃ waiting, w.locks.line (scene i) = i :: waiting :=
    List.head?_eq_some_iff.mp head
  have htail : (w.locks.release (scene i) name).line (scene i) = waiting := by
    rw [r.line, hline]
    rfl
  have hnd : i ∉ waiting ∧ waiting.Nodup := by
    have := h.nodup (scene i)
    rwa [hline, List.nodup_cons] at this
  have hengaged : ∀ s j, j ∈ (w.locks.release (scene i) name).line s ↔
      ∃ rest'' name', ({ w with locks := w.locks.release (scene i) name }.put i
        ⟨rest', none⟩).workers[j]? = some ⟨rest'', some name'⟩ ∧ scene j = s := by
    intro s j
    have hmem : j ∈ (w.locks.release (scene i) name).line s ↔ j ∈ w.locks.line s ∧ j ≠ i := by
      by_cases hs : s = scene i
      · rw [hs, htail, hline]
        constructor
        · exact fun hj => ⟨List.mem_cons_of_mem _ hj, fun e => hnd.1 (e ▸ hj)⟩
        · exact fun ⟨hj, hne⟩ => (List.mem_cons.mp hj).resolve_left hne
      · rw [r.others s hs]
        refine ⟨fun hj => ⟨hj, ?_⟩, And.left⟩
        rintro rfl
        exact hs (h.scene_of_mem_line hj).symm
    rw [hmem]
    by_cases hj : j = i
    · subst hj
      rw [workers_put_self here]
      simp
    · rw [workers_put_ne hj, h.engaged]
      simp [hj]
  refine ⟨r.sound, ?_, hengaged, ?_, ?_⟩
  · intro s
    by_cases hs : s = scene i
    · rw [hs, locks_put, htail]
      exact hnd.2
    · rw [locks_put, r.others s hs]
      exact h.nodup s
  · intro j other n hw
    -- the entry of a scene outlives this worker as long as somebody is left in its line
    have hmem := (hengaged (scene j) j).mpr ⟨other, n, hw, rfl⟩
    rcases of_workers_put hw with ⟨-, hworker⟩ | ⟨-, hw⟩
    · cases hworker
    · exact r.kept _ _ (h.named j other n hw) (List.ne_nil_of_mem hmem)
  · intro j worker hw
    rcases of_workers_put hw with ⟨-, rfl⟩ | ⟨hj, hw⟩
    · exact Or.inr (Or.inr ⟨free, rfl⟩)
    · refine (h.fits j worker hw).mono fun hhead => ?_
      by_cases hs : scene j = scene i
      · rw [hs, hline] at hhead
        exact absurd (Option.some.inj hhead).symm hj
      · rw [locks_put, r.others _ hs]
        exact hhead

/-- What the place of a worker that asks for a lock says about what comes next. -/
theorem Agree.of_acquire (h : Agree scene w) {s : Uuid} {lease : Option Nat}
    {next : Unit → Running Call Reply α}
    (here : w.workers[i]? = some ⟨.ask (.acquire s) next, lease⟩) :
    s = scene i ∧ Running.Holding (scene i) (next ()) := by
  rcases h.fits i _ here with hf | ⟨hf, -⟩ | ⟨hf, -⟩
  · exact hf
  · exact absurd hf id
  · exact absurd hf id

theorem Agree.of_release (h : Agree scene w) {s : Uuid} {lease : Option Nat}
    {next : Unit → Running Call Reply α}
    (here : w.workers[i]? = some ⟨.ask (.release s) next, lease⟩) :
    s = scene i ∧ Running.Free (next ()) ∧ lease.isSome ∧
      (w.locks.line (scene i)).head? = some i := by
  rcases h.fits i _ here with hf | ⟨hf, hl, hh⟩ | ⟨hf, -⟩
  · exact absurd hf id
  · exact ⟨hf.1, hf.2, hl, hh⟩
  · exact absurd hf id

variable {respond : Nat → (call : Call) → σ → Option (Reply call × σ)}

/-- **One turn** keeps table and workers in agreement. -/
theorem Agree.turn (h : Agree scene w) {w' : Workers Call Reply σ α} (t : Turn respond w i w') :
    Agree scene w' := by
  cases t with
  | idle why => exact h
  | @granted s next here held =>
    obtain ⟨rfl, hin⟩ := h.of_acquire here
    have asked := h.sound.request (scene i) i
    have hhead := (asked.sound.isHeldBy_iff asked.named).mp held
    rw [asked.line] at hhead
    exact h.ask here asked (Or.inr (Or.inl ⟨hin, rfl, hhead⟩))
  | @queued s next here held =>
    obtain ⟨rfl, hin⟩ := h.of_acquire here
    exact h.ask here (h.sound.request (scene i) i) (Or.inl ⟨rfl, hin⟩)
  | @woken s next name here held =>
    obtain ⟨rfl, hin⟩ := h.of_acquire here
    have hhead := (h.sound.isHeldBy_iff (h.named _ _ _ here)).mp held
    exact h.keep here (Or.inr (Or.inl ⟨hin, rfl, hhead⟩)) w.state w.asked
  | @released s next name here =>
    obtain ⟨rfl, hfree, -, hhead⟩ := h.of_release here
    exact h.leave here hhead hfree
  | @unheld s next here =>
    obtain ⟨-, -, hl, -⟩ := h.of_release here
    cases hl
  | @called call next lease reply state here answer =>
    refine h.keep here ?_ _ _
    rcases h.fits i _ here with hf | ⟨hf, hl⟩ | ⟨hf, hl⟩
    · exact absurd hf id
    · exact Or.inr (Or.inl ⟨hf reply, hl⟩)
    · exact Or.inr (Or.inr ⟨hf reply, hl⟩)

theorem Agree.run (h : Agree scene w) (schedule : List Nat) :
    Agree scene (w.runSchedule respond schedule) :=
  runSchedule_keeps (fun w i h => h.turn (turn_spec respond w i)) schedule h

theorem agree_start {calls : List (Running Call Reply α)}
    (orderly : ∀ i call, calls[i]? = some call →
      Running.Asking (scene i) call ∨ Running.Free call) (state : σ) :
    Agree scene (start calls ∅ state) := by
  have hline : ∀ s, (∅ : LockTable).line s = [] := fun s => rfl
  have hworker : ∀ (i : Nat) (worker : Worker Call Reply α),
      (start calls ∅ state).workers[i]? = some worker →
        calls[i]? = some worker.rest ∧ worker.lease = none := by
    intro i worker hw
    rw [start, List.getElem?_map, Option.map_eq_some_iff] at hw
    obtain ⟨call, hc, rfl⟩ := hw
    exact ⟨hc, rfl⟩
  refine ⟨LockTable.sound_empty, ?_, ?_, ?_, ?_⟩
  · intro s
    exact List.nodup_nil
  · intro s i
    constructor
    · intro hm
      exact absurd hm List.not_mem_nil
    · rintro ⟨rest, name, hw, -⟩
      cases (hworker i _ hw).2
  · intro i rest name hw
    cases (hworker i _ hw).2
  · intro i worker hw
    obtain ⟨hc, hl⟩ := hworker i worker hw
    exact (orderly i _ hc).imp id fun hf => Or.inr ⟨hf, hl⟩

/-! ## Changes side by side -/

/-- Changes that run side by side, each with the time at which it happens. -/
def ofChanges (calls : List (Change × Timestamp)) (state : σ) :
    Workers StoreCall StoreCall.Reply σ (Except CatalogError ChangeReply) :=
  start (calls.map fun call => call.1.run call.2) ∅ state

@[simp] theorem length_ofChanges (calls : List (Change × Timestamp)) (state : σ) :
    (ofChanges calls state).workers.length = calls.length := by
  simp [ofChanges, start]

/-- At the start every worker has its call before it, and no lease. -/
theorem of_ofChanges {calls : List (Change × Timestamp)} {state : σ} {i : Nat}
    {worker : Worker StoreCall StoreCall.Reply (Except CatalogError ChangeReply)}
    (h : (ofChanges calls state).workers[i]? = some worker) :
    ∃ call : Change × Timestamp, calls[i]? = some call ∧ worker = ⟨call.1.run call.2, none⟩ := by
  rw [ofChanges, start, List.map_map, List.getElem?_map, Option.map_eq_some_iff] at h
  obtain ⟨call, hc, rfl⟩ := h
  exact ⟨call, hc, rfl⟩

/-- Every worker has a call. -/
theorem exists_call {calls : List (Change × Timestamp)} {i : Nat} {worker : Worker Call Reply α}
    (hlen : w.workers.length = calls.length) (here : w.workers[i]? = some worker) :
    ∃ call, calls[i]? = some call := by
  obtain ⟨hi, -⟩ := List.getElem?_eq_some_iff.mp here
  exact ⟨_, List.getElem?_eq_getElem (hlen ▸ hi)⟩

/-- The scene of call `i`. -/
def sceneOf (calls : List (Change × Timestamp)) (i : Nat) : Uuid :=
  (calls[i]?).elim (Uuid.ofNat 0) fun call => call.1.scene

theorem sceneOf_eq {calls : List (Change × Timestamp)} {i : Nat} {call : Change × Timestamp}
    (h : calls[i]? = some call) : sceneOf calls i = call.1.scene := by
  simp [sceneOf, h]

theorem agree_ofChanges (calls : List (Change × Timestamp)) (state : σ) :
    Agree (sceneOf calls) (ofChanges calls state) := by
  refine agree_start (fun i call hc => ?_) state
  rw [List.getElem?_map, Option.map_eq_some_iff] at hc
  obtain ⟨⟨change, now⟩, hc, rfl⟩ := hc
  rw [sceneOf_eq hc]
  exact change.asking_or_free now

/-- Worker `i` is inside the section of a scene: it has the lock and has still to give it back. -/
def Inside (w : Workers Call Reply σ α) (scene : Uuid) (i : Nat) : Prop :=
  ∃ worker, w.workers[i]? = some worker ∧ Running.Holding scene worker.rest

/-- The scenes whose lock a call holds or awaits, one for each such call. -/
def engagedScenes (calls : List (Change × Timestamp)) (w : Workers Call Reply σ α) : List Uuid :=
  (w.workers.zip calls).filterMap fun (worker, call) => worker.lease.map fun _ => call.1.scene

/-- Every call has come to its end. -/
def Over (w : Workers Call Reply σ α) : Prop := ∀ result ∈ w.results, result.isSome

/-- The lock table is exact for the calls that run. -/
structure Exact (calls : List (Change × Timestamp)) (w : Workers Call Reply σ α) : Prop where
  /-- No two calls are inside the section of the same scene. -/
  exclusive : ∀ scene i j, w.Inside scene i → w.Inside scene j → i = j
  /-- Whoever holds or awaits the lock of a scene refers to the mutex that the table has for it. -/
  current : ∀ i call rest name, calls[i]? = some call → w.workers[i]? = some ⟨rest, some name⟩ →
    w.locks.entries.lookup call.1.scene = some name ∧
      ∃ m, w.locks.mutex? name = some m ∧ (m.holder = some i ∨ i ∈ m.waiting)
  /-- A call that is inside the section of a scene holds the mutex that the table has for it. -/
  holds : ∀ scene i, w.Inside scene i → ∃ name m, w.locks.entries.lookup scene = some name ∧
    w.locks.mutex? name = some m ∧ m.holder = some i
  /-- No mutex is in use besides those of the table. -/
  sole : w.locks.mutexes.map (·.1) = w.locks.entries.map (·.2)
  /-- There is one entry for each scene that a call holds or awaits. -/
  counted : w.locks.active = (w.engagedScenes calls).toFinset.card
  /-- Nothing is left when all calls have come to their end. -/
  cleared : w.Over → w.locks.active = 0

theorem Agree.of_inside {w : Workers StoreCall StoreCall.Reply σ α} (h : Agree scene w) {s : Uuid}
    (inside : w.Inside s i) :
    s = scene i ∧ (w.locks.line s).head? = some i ∧
      ∃ name, w.locks.entries.lookup s = some name := by
  obtain ⟨⟨rest, lease⟩, hw, hin⟩ := inside
  rcases h.fits i _ hw with hf | ⟨hf, hl, hh⟩ | ⟨hf, -⟩
  · exact absurd hin hf.not_holding
  · obtain rfl := hin.scene_inj hf
    obtain ⟨name, rfl⟩ := Option.isSome_iff_exists.mp hl
    exact ⟨rfl, hh, name, h.named i rest name hw⟩
  · exact absurd hf hin.not_free

/-- A scene is in the table exactly as long as a worker has a lease on it. -/
theorem Agree.mem_scenes_iff (h : Agree scene w) {s : Uuid} :
    s ∈ w.locks.entries.map (·.1) ↔
      ∃ i rest name, w.workers[i]? = some ⟨rest, some name⟩ ∧ scene i = s := by
  rw [h.sound.mem_scenes_iff]
  constructor
  · intro hne
    obtain ⟨i, hi⟩ := List.exists_mem_of_ne_nil _ hne
    exact ⟨i, (h.engaged s i).mp hi⟩
  · rintro ⟨i, hi⟩
    exact List.ne_nil_of_mem ((h.engaged s i).mpr hi)

theorem mem_engagedScenes_iff {calls : List (Change × Timestamp)} {s : Uuid}
    (hlen : w.workers.length = calls.length) :
    s ∈ w.engagedScenes calls ↔
      ∃ i rest name, w.workers[i]? = some ⟨rest, some name⟩ ∧ sceneOf calls i = s := by
  constructor
  · intro hm
    obtain ⟨⟨⟨rest, lease⟩, call⟩, hz, hs⟩ := List.mem_filterMap.mp hm
    obtain ⟨name, rfl, rfl⟩ := Option.map_eq_some_iff.mp hs
    obtain ⟨i, hi⟩ := List.mem_iff_getElem?.mp hz
    obtain ⟨hw, hc⟩ := List.getElem?_zip_eq_some.mp hi
    exact ⟨i, rest, name, hw, sceneOf_eq hc⟩
  · rintro ⟨i, rest, name, hw, rfl⟩
    obtain ⟨call, hc⟩ := exists_call hlen hw
    refine List.mem_filterMap.mpr ⟨(⟨rest, some name⟩, call), ?_, ?_⟩
    · exact List.mem_of_getElem? (List.getElem?_zip_eq_some.mpr ⟨hw, hc⟩)
    · rw [sceneOf_eq hc]
      rfl

theorem Agree.no_lease_of_over (h : Agree scene w) (ended : w.Over) {rest : Running Call Reply α}
    {name : Nat} : w.workers[i]? ≠ some ⟨rest, some name⟩ := by
  intro hw
  have hres := ended _ (List.mem_map.mpr ⟨_, List.mem_of_getElem? hw, rfl⟩)
  cases rest with
  | done a =>
    rcases h.fits i _ hw with hf | ⟨hf, -⟩ | ⟨-, hl⟩
    · exact hf
    · exact hf
    · cases hl
  | ask q next => cases hres

theorem Agree.exact {calls : List (Change × Timestamp)}
    {w : Workers StoreCall StoreCall.Reply σ α} (h : Agree (sceneOf calls) w)
    (hlen : w.workers.length = calls.length) : w.Exact calls := by
  refine ⟨?_, ?_, ?_, h.sound.known, ?_, ?_⟩
  · intro s i j hi hj
    have hhi := (h.of_inside hi).2.1
    rw [(h.of_inside hj).2.1] at hhi
    exact (Option.some.inj hhi).symm
  · intro i call rest name hc hw
    have hl := h.named i rest name hw
    obtain ⟨holder, waiting, hm⟩ := h.sound.mutex hl
    have hmem := (h.engaged (sceneOf calls i) i).mpr ⟨rest, name, hw, rfl⟩
    rw [LockTable.line_of_lookup hl, LockTable.lineOf_of_mutex hm] at hmem
    rw [← sceneOf_eq hc]
    refine ⟨hl, _, hm, ?_⟩
    rcases List.mem_cons.mp hmem with rfl | hmem
    · exact Or.inl rfl
    · exact Or.inr hmem
  · intro s i hi
    obtain ⟨-, hh, name, hl⟩ := h.of_inside hi
    obtain ⟨holder, waiting, hm⟩ := h.sound.mutex hl
    rw [LockTable.line_of_lookup hl, LockTable.lineOf_of_mutex hm] at hh
    exact ⟨name, _, hl, hm, hh⟩
  · have hset : (w.engagedScenes calls).toFinset = (w.locks.entries.map (·.1)).toFinset := by
      ext s
      rw [List.mem_toFinset, List.mem_toFinset, mem_engagedScenes_iff hlen, h.mem_scenes_iff]
    rw [hset, List.toFinset_card_of_nodup h.sound.scenes, List.length_map]
    rfl
  · intro ended
    have hempty : w.locks.entries.map (·.1) = [] := by
      refine List.eq_nil_iff_forall_not_mem.mpr fun s hs => ?_
      obtain ⟨i, rest, name, hw, -⟩ := h.mem_scenes_iff.mp hs
      exact h.no_lease_of_over ended hw
    exact List.length_eq_zero_iff.mpr (List.map_eq_nil_iff.mp hempty)

theorem length_turn (respond : Nat → (call : Call) → σ → Option (Reply call × σ))
    (w : Workers Call Reply σ α) (i : Nat) :
    (w.turn respond i).workers.length = w.workers.length := by
  have t := turn_spec respond w i
  generalize w.turn respond i = w' at t ⊢
  cases t <;> simp

theorem length_runSchedule (respond : Nat → (call : Call) → σ → Option (Reply call × σ))
    (schedule : List Nat) (w : Workers Call Reply σ α) :
    (w.runSchedule respond schedule).workers.length = w.workers.length :=
  runSchedule_keeps (P := fun w' => w'.workers.length = w.workers.length)
    (fun w' i h => (length_turn respond w' i).trans h) schedule rfl

/-- **The lock table is exact** in every state that changes running side by side can reach, in any
interleaving and over any store: `respond` may fail a call, and may keep it waiting. -/
theorem lockTable_exact (respond : Nat → (call : StoreCall) → σ → Option (call.Reply × σ))
    (state : σ) (calls : List (Change × Timestamp)) (schedule : List Nat) :
    ((ofChanges calls state).runSchedule respond schedule).Exact calls := by
  refine ((agree_ofChanges calls state).run schedule).exact ?_
  rw [length_runSchedule, length_ofChanges]

end Workers

end SceneCatalog
