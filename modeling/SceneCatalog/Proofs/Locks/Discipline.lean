import SceneCatalog.Proofs.Consensus.Plan

/-!
The lock discipline of a change. Whatever the store answers, a change of a scene asks for the lock
of that scene once, makes its calls, gives the lock back once, and asks for no other lock. A change
that is refused at once asks for none.
-/
namespace SceneCatalog

section Discipline

variable {Call : Type} {Reply : Call → Type} {α : Type}

/-- A call that has no lock and asks for none. -/
def Running.Free : Running Call Reply α → Prop
  | .done _ => True
  | .ask (.call _) next => ∀ reply, Free (next reply)
  | .ask (.acquire _) _ => False
  | .ask (.release _) _ => False

/-- A call that has the lock of a scene and will give it back, whatever it is answered. -/
def Running.Holding (scene : Uuid) : Running Call Reply α → Prop
  | .done _ => False
  | .ask (.call _) next => ∀ reply, Holding scene (next reply)
  | .ask (.acquire _) _ => False
  | .ask (.release s) next => s = scene ∧ Free (next ())

/-- A call that has no lock, asks for that of a scene, and will give it back. -/
def Running.Asking (scene : Uuid) : Running Call Reply α → Prop
  | .ask (.acquire s) next => s = scene ∧ Running.Holding scene (next ())
  | _ => False

theorem Running.Holding.not_free [∀ c, Nonempty (Reply c)] {scene : Uuid}
    {d : Running Call Reply α} (h : Running.Holding scene d) : ¬ Running.Free d := by
  induction d with
  | done a => exact absurd h id
  | ask q next ih =>
    cases q with
    | acquire s => exact absurd h id
    | release s => exact id
    | call c =>
      obtain ⟨reply⟩ := (inferInstance : Nonempty (Reply c))
      exact fun hf => ih reply (h reply) (hf reply)

/-- There is one lock that a call has to give back. -/
theorem Running.Holding.scene_inj [∀ c, Nonempty (Reply c)] {scene other : Uuid}
    {d : Running Call Reply α} (h : Running.Holding scene d) (h' : Running.Holding other d) :
    scene = other := by
  induction d with
  | done a => exact absurd h id
  | ask q next ih =>
    cases q with
    | acquire s => exact absurd h id
    | release s => exact h.1.symm.trans h'.1
    | call c =>
      obtain ⟨reply⟩ := (inferInstance : Nonempty (Reply c))
      exact ih reply (h reply) (h' reply)

theorem Running.Asking.not_holding {scene other : Uuid} {d : Running Call Reply α}
    (h : Running.Asking scene d) : ¬ Running.Holding other d := by
  cases d with
  | done a => exact id
  | ask q next =>
    cases q with
    | acquire s => exact id
    | release s => exact absurd h id
    | call c => exact absurd h id

theorem Running.Asking.not_free {scene : Uuid} {d : Running Call Reply α}
    (h : Running.Asking scene d) : ¬ Running.Free d := by
  cases d with
  | done a => exact absurd h id
  | ask q next =>
    cases q with
    | acquire s => exact id
    | release s => exact id
    | call c => exact absurd h id

/-- The number of turns that a question may take: a worker may have to get into the line for a lock
before it gets the lock. -/
def turnsOf : Ask Call → Nat
  | .acquire _ => 2
  | _ => 1

/-- A call that is over after at most `n` turns, apart from those in which it waits. -/
def Running.Within : Nat → Running Call Reply α → Prop
  | _, .done _ => True
  | n, .ask q next => ∃ k, k + turnsOf q ≤ n ∧ ∀ answer, Within k (next answer)

section Within

variable {n : Nat} {scene : Uuid} {next : Unit → Running Call Reply α}

theorem Running.Within.acquire (h : Running.Within n (next ())) :
    Running.Within (n + 2) (.ask (.acquire scene) next : Running Call Reply α) :=
  ⟨n, Nat.le_refl _, fun _ => h⟩

theorem Running.Within.release (h : Running.Within n (next ())) :
    Running.Within (n + 1) (.ask (.release scene) next : Running Call Reply α) :=
  ⟨n, Nat.le_refl _, fun _ => h⟩

theorem Running.Within.call {call : Call} {next : Reply call → Running Call Reply α}
    (h : ∀ reply, Running.Within n (next reply)) :
    Running.Within (n + 1) (.ask (.call call) next : Running Call Reply α) :=
  ⟨n, Nat.le_refl _, h⟩

end Within

/-- What is left after a question takes fewer turns. -/
theorem Running.Within.next {n : Nat} {q : Ask Call}
    {next : q.Answer Reply → Running Call Reply α} (h : Running.Within n (.ask q next)) :
    ∃ k < n, ∀ answer, Running.Within k (next answer) := by
  obtain ⟨k, hk, hnext⟩ := h
  have hpos : 0 < turnsOf q := by cases q <;> simp [turnsOf]
  exact ⟨k, by omega, hnext⟩

end Discipline

instance (call : StoreCall) : Nonempty call.Reply := by
  cases call <;> first | exact ⟨.error (.query "")⟩ | exact ⟨()⟩

/-! ## Changes keep the discipline -/

section Changes

variable {α : Type} (scene : Uuid)

theorem abandon_holding (result : Except CatalogError α) :
    Running.Holding scene (abandon scene result) :=
  fun _ => ⟨rfl, trivial⟩

theorem leave_holding (result : Except CatalogError α) :
    Running.Holding scene (leave scene result) :=
  ⟨rfl, fun _ => trivial⟩

theorem conclude_holding (after : SceneFingerprints) (result : α) :
    Running.Holding scene (conclude scene after result) := by
  intro saved
  match saved with
  | .error e => exact abandon_holding scene _
  | .ok () =>
    intro committed
    match committed with
    | .error e => exact abandon_holding scene _
    | .ok () => exact ⟨rfl, trivial⟩

theorem changeScene_asking (effect : SceneFingerprints → Effect α) :
    Running.Asking scene (changeScene scene effect) := by
  refine ⟨rfl, fun known => ?_⟩
  match known with
  | .error e => exact ⟨rfl, trivial⟩
  | .ok false => exact ⟨rfl, trivial⟩
  | .ok true =>
    intro loaded
    match loaded with
    | .error e => exact abandon_holding scene _
    | .ok stored =>
      cases h : effect (.ofRecords stored) with
      | error e => simpa only [h] using leave_holding scene _
      | ok outcome =>
        obtain ⟨result, after | after⟩ := outcome
        · simpa only [h] using leave_holding scene _
        · simpa only [h] using conclude_holding scene after result

/-- A change takes at most eight turns: two for the lock, two to read, save, commit, and two to
end. -/
theorem changeScene_within (effect : SceneFingerprints → Effect α) :
    Running.Within 8 (changeScene scene effect) := by
  have hend : ∀ (n : Nat) (result : Except CatalogError α),
      Running.Within (n + 2) (abandon scene result) ∧
        Running.Within (n + 2) (leave scene result) :=
    fun n result => ⟨.call fun _ => .release trivial, .release (.call fun _ => trivial)⟩
  have hconclude : ∀ (after : SceneFingerprints) (result : α),
      Running.Within 4 (conclude scene after result) := by
    refine fun after result => .call fun saved => ?_
    match saved with
    | .error e => exact (hend 1 _).1
    | .ok () =>
      refine .call fun committed => ?_
      match committed with
      | .error e => exact (hend 0 _).1
      | .ok () => exact Running.Within.release (n := 1) trivial
  refine .acquire (.call fun known => ?_)
  match known with
  | .error e => exact Running.Within.release (n := 4) trivial
  | .ok false => exact Running.Within.release (n := 4) trivial
  | .ok true =>
    refine .call fun loaded => ?_
    match loaded with
    | .error e => exact (hend 2 _).1
    | .ok stored =>
      cases h : effect (.ofRecords stored) with
      | error e => simpa only [h] using (hend 2 _).2
      | ok outcome =>
        obtain ⟨result, after | after⟩ := outcome
        · simpa only [h] using (hend 2 _).2
        · simpa only [h] using hconclude after result

end Changes

theorem Change.asking_or_free (change : Change) (now : Timestamp) :
    Running.Asking change.scene (change.run now) ∨
      Running.Free (change.run now : Work ChangeReply) := by
  rw [Change.run_eq]
  cases change.plan now with
  | error e => exact Or.inr trivial
  | ok effect => exact Or.inl (changeScene_asking _ _)

theorem Change.within (change : Change) (now : Timestamp) :
    Running.Within 8 (change.run now : Work ChangeReply) := by
  rw [Change.run_eq]
  cases change.plan now with
  | error e => exact trivial
  | ok effect => exact changeScene_within _ _

end SceneCatalog
