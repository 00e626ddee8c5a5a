import SceneCatalog.Proofs.Api.Privacy

/-!
What the service keeps to itself. Main statement: over two stores that fail at the same calls and
answer all others alike, the same requests get the same responses, whatever the stores say about
their failures.
-/
namespace SceneCatalog

/-! ## Stores that fail alike -/

section Stores

variable {σ τ : Type}

/-- Two answers to a call are the same, or both tell of a failure, each for its own reason. -/
def StoreCall.SameButReason (call : StoreCall) (x x' : call.Reply) : Prop :=
  x = x' ∨ ((call.refusal? x).isSome ∧ (call.refusal? x').isSome)

/-- Calls that are made one after another get the same answers on both sides, but for the reasons of
failures. -/
def AnswersSame (respond : (call : StoreCall) → σ → call.Reply × σ)
    (respond' : (call : StoreCall) → τ → call.Reply × τ) : List StoreCall → σ → τ → Prop
  | [], _, _ => True
  | call :: calls, state, state' =>
    call.SameButReason (respond call state).1 (respond' call state').1 ∧
      AnswersSame respond respond' calls (respond call state).2 (respond' call state').2

/-- Stores that fail at the same calls and answer all others alike, whatever is asked of them. -/
def FailAlike (respond : (call : StoreCall) → σ → call.Reply × σ)
    (respond' : (call : StoreCall) → τ → call.Reply × τ) (state : σ) (state' : τ) : Prop :=
  ∀ calls, AnswersSame respond respond' calls state state'

/-- What is left to tell such stores apart: nothing in the calls, and of the answers no more than
whether they are failures. -/
def StoreCall.silence : Likeness StoreCall StoreCall.Reply :=
  ⟨Eq, RepliesAccord (fun _ _ => True) Eq⟩

theorem StoreCall.silence_accords : silence.Accords (fun _ _ => True) Eq where
  reads := fun _ => rfl
  saves := fun _ _ _ h => h ▸ rfl
  commits := fun _ => rfl
  drops := fun _ => rfl
  replies := fun _ h => h

theorem StoreCall.SameButReason.accord {call : StoreCall} {x x' : call.Reply}
    (h : call.SameButReason x x') : call.RepliesAccord (fun _ _ => True) Eq call x x' := by
  have same : ∀ {α : Type} (y : Except StoreError α), Concur (fun _ _ => True) Eq y y :=
    fun y => (Concur.refl y).mono (fun _ _ _ => trivial) fun _ _ h => h
  rcases h with rfl | ⟨h, h'⟩
  · cases call with
    | txDrop scene => trivial
    | _ => exact same _
  · cases call with
    | txDrop scene => trivial
    | _ =>
      -- an answer that is no failure has no reason
      cases x with
      | ok a => cases h
      | error e =>
        cases x' with
        | ok a => cases h'
        | error e' => exact .error trivial

variable {respond : (call : StoreCall) → σ → call.Reply × σ}
  {respond' : (call : StoreCall) → τ → call.Reply × τ}

theorem served_silence : StoreCall.silence.Served respond respond' (FailAlike respond respond') where
  replies := by
    rintro c _ state state' rfl alike
    exact (alike [c]).1.accord
  states := by
    rintro c _ state state' rfl alike calls
    exact (alike (c :: calls)).2

end Stores

namespace MemoryStore

/-- The store with its own reasons to refuse calls. -/
def refusing (m : MemoryStore) (refuses : Nat → StoreCall → Option StoreError) : MemoryStore :=
  { m with refuses }

variable {m : MemoryStore} {refuses : Nat → StoreCall → Option StoreError}

/-- A call is refused for one reason or another, and leaves the same behind. -/
theorem respond_refusing (i : Nat) (call : StoreCall)
    (h : (m.refuses m.served call).isSome = (refuses m.served call).isSome) :
    call.SameButReason (m.respond i call).1 ((m.refusing refuses).respond i call).1 ∧
      ((m.refusing refuses).respond i call).2 = (m.respond i call).2.refusing refuses ∧
      (m.respond i call).2.refuses = m.refuses := by
  cases hm : m.refuses m.served call with
  | none =>
    have hr : refuses m.served call = none := by simpa [hm] using h.symm
    refine ⟨Or.inl ?_, ?_, ?_⟩ <;> cases call <;> cases hs : m.staging <;>
      simp [respond, refusing, answer, perform, publish, unstage, hm, hr, hs]
  | some e =>
    obtain ⟨e', hr⟩ : ∃ e', refuses m.served call = some e' := by
      simpa [hm, Option.isSome_iff_exists] using h.symm
    refine ⟨?_, ?_, ?_⟩ <;> cases call <;> cases hs : m.staging <;>
      simp [StoreCall.SameButReason, StoreCall.refusal?, respond, refusing, answer, perform, unstage,
        hm, hr, hs]

/-- Stores in memory fail alike if they hold the same and refuse the same calls, whatever their
reasons. -/
theorem failAlike (i : Nat)
    (h : ∀ n call, (m.refuses n call).isSome = (refuses n call).isSome) :
    FailAlike (MemoryStore.respond i) (MemoryStore.respond i) m (m.refusing refuses) := by
  intro calls
  induction calls generalizing m with
  | nil => trivial
  | cons call calls ih =>
    obtain ⟨hreply, hstate, hrefuses⟩ := respond_refusing i call (h m.served call)
    refine ⟨hreply, ?_⟩
    rw [hstate]
    exact ih fun n c => by rw [hrefuses, h]

end MemoryStore

/-! ## Work that does not tell -/

theorem effectsAccord_refl {α : Type} {errors : StoreError → StoreError → Prop}
    (effect : Effect α) : EffectsAccord errors Eq Eq effect effect := by
  cases effect with
  | error e => exact .error (.same e)
  | ok x =>
    obtain ⟨result, after⟩ := x
    cases after with
    | none => exact .ok ⟨rfl, .none⟩
    | some s => exact .ok ⟨rfl, .some rfl⟩

/-- A change meets a failure in the same way, whatever its reason. -/
theorem Change.resembles_silence (change : Change) (now : Timestamp) :
    Running.Resembles StoreCall.silence (Concur (CatalogError.Accord fun _ _ => True) Eq)
      (change.run now : Work ChangeReply) (change.run now : Work ChangeReply) := by
  rw [Change.run_eq]
  cases change.plan now with
  | error e => exact .done (.error (.same e))
  | ok effect =>
    refine changeScene_resembles StoreCall.silence_accords change.scene fun h => ?_
    rw [h]
    exact effectsAccord_refl _

namespace Api

variable {s : Service} {now : Timestamp} {r : Request} {endpoint : Endpoint} {work : Answering}

theorem Serves.resembles_silence (h : Serves s now r endpoint work) :
    Running.Resembles StoreCall.silence Eq work work := by
  have accords := StoreCall.silence_accords
  -- equal lists hold equal records to be picked
  have picks : ∀ (p : Fingerprint → Bool) (scene : Uuid) {rs rs' : List Record}, rs = rs' →
      List.Forall₂ Eq
        (((SceneFingerprints.ofRecords rs).records.filter fun r => p r.fingerprint).map
          (Match.mk scene))
        (((SceneFingerprints.ofRecords rs').records.filter fun r => p r.fingerprint).map
          (Match.mk scene)) :=
    fun p scene rs rs' h => h ▸ List.forall₂_refl _
  have found : ∀ {viewer : Uuid} {found found' : List Match}, List.Forall₂ Eq found found' →
      viewMatches viewer found = viewMatches viewer found' := by
    intro viewer found found' h
    rw [List.forall₂_eq_eq_eq] at h
    rw [h]
  cases h with
  | settled response => exact .done rfl
  | probe => exact readiness_resembles accords
  | change change =>
    exact answering_resembles (change.resembles_silence now) fun _ _ h => h ▸ rfl
  | fingerprints shown role wanted =>
    exact answering_resembles (findByFingerprints_resembles picks accords wanted) fun _ _ => found
  | hashes shown role wanted =>
    exact answering_resembles (findByHashes_resembles picks accords wanted) fun _ _ => found
  | scene shown role scene =>
    exact answering_resembles (sceneRecords_resembles accords (fun h => by rw [h]) scene)
      fun _ _ h => congrArg _ h
  | query shown role filter spec =>
    exact answering_resembles (queryScenes_resembles accords filter spec _) fun _ _ h =>
      congrArg viewPage h

/-! ## Sessions -/

/-- **What the service keeps to itself** are the reasons of failures: over stores that fail at the
same calls and answer all others alike, the same requests get the same responses. -/
theorem reasons_untold {σ τ : Type} (s : Service)
    {respond : (call : StoreCall) → σ → call.Reply × σ}
    {respond' : (call : StoreCall) → τ → call.Reply × τ} {state : σ} {state' : τ}
    (alike : FailAlike respond respond' state state') (debts : RateLimit.Debts)
    (locks locks' : LockTable) (requests : List (Timestamp × Request)) :
    (s.session respond requests ⟨debts, locks, state⟩).map (·.response) =
      (s.session respond' requests ⟨debts, locks', state'⟩).map (·.response) := by
  have exchanges : List.Forall₂ (fun x x' => x.response = x'.response ∧ _)
      (s.session respond requests ⟨debts, locks, state⟩)
      (s.session respond' requests ⟨debts, locks', state'⟩) :=
    session_resembles served_silence (fun request _ debts =>
      (handle_handles s request.1 request.2 debts).resembles_of fun serves =>
        serves.resembles_silence) rfl alike
  rw [← List.forall₂_eq_eq_eq]
  exact List.rel_map (fun _ _ h => h.1) exchanges

/-- A store with a scene that refuses to load records, and is not well, for a reason of its own. -/
def troubledStore (reason : StoreError) : MemoryStore :=
  (MemoryStore.of (sharedCatalog (.ofNat 2)) true).refusing fun _ call =>
    if call.kind? = some .load ∨ call.kind? = some .health then some reason else none

/-- Somebody asks whether the catalog can be reached. -/
def readinessProbe : Request where
  method := "GET"
  target := "/ready"

/-- The probe, a submission and a look at the scene come upon the trouble. -/
theorem reasons_untold_troubled :
    let requests := [(⟨0, 0⟩, readinessProbe), (⟨0, 0⟩, ownSubmission), (⟨0, 0⟩, ownView)]
    let unreachable := troubledStore (.connection "no route to host")
    let broken := troubledStore (.query "no such relation")
    let responses := fun store => (smallService.session (MemoryStore.respond 0) requests
      ⟨[], ∅, store⟩).map (·.response)
    FailAlike (MemoryStore.respond 0) (MemoryStore.respond 0) unreachable broken ∧
      (unreachable.respond 0 (.txLoad (.ofNat 0))).1 ≠ (broken.respond 0 (.txLoad (.ofNat 0))).1 ∧
      (responses broken).head?.map (·.status) = some 503 ∧
      responses unreachable = responses broken := by
  intro requests unreachable broken responses
  have alike : FailAlike (MemoryStore.respond 0) (MemoryStore.respond 0) unreachable broken := by
    refine MemoryStore.failAlike 0 fun n call => ?_
    simp only [unreachable, troubledStore, MemoryStore.refusing]
    split <;> rfl
  exact ⟨alike, by decide +kernel, by decide +kernel,
    reasons_untold smallService alike [] ∅ ∅ requests⟩

end Api
end SceneCatalog
