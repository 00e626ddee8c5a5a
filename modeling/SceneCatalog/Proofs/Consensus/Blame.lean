import SceneCatalog.Lookup
import SceneCatalog.Proofs.Consensus.Failure

/-!
Work that blames its store. A call of the catalog that has begun gives up just when a call of its
store fails, and with the error of that call: a change meets no check in the collection that has not
been made before, and a look-up makes none.
-/
namespace SceneCatalog

/-! ## Work that blames its store -/

section Blames

variable {α β σ : Type} {scene : Option Uuid}

/-- Nothing is left but to give up with an error: a lock is given back, a transaction dropped. -/
def Running.GivesUp (e : CatalogError) :
    Running StoreCall StoreCall.Reply (Except CatalogError α) → Prop
  | .done (.error e') => e' = e
  | .done (.ok _) => False
  | .ask (.release _) next => GivesUp e (next ())
  | .ask (.call (.txDrop _)) next => GivesUp e (next ())
  | .ask _ _ => False

/-- Whether a call asks for no scene to be known but `scene`. -/
def StoreCall.Wants (scene : Option Uuid) : StoreCall → Prop
  | .sceneExists s => scene = some s
  | _ => True

/-- Work that gives up just when a call fails, with the error of that call, and that asks for no
scene to be known but `scene`. -/
def Running.Blames (scene : Option Uuid) :
    Running StoreCall StoreCall.Reply (Except CatalogError α) → Prop
  | .done (.ok _) => True
  | .done (.error _) => False
  | .ask (.acquire _) next => Blames scene (next ())
  | .ask (.release _) next => Blames scene (next ())
  | .ask (.call c) next => c.Wants scene ∧ ∀ reply,
      match c.failure? reply with
      | some e => GivesUp e (next reply)
      | none => Blames scene (next reply)

theorem Running.GivesUp.bind {e : CatalogError} {work : Work α} (h : Running.GivesUp e work)
    (next : α → Work β) : Running.GivesUp e (work >>= next : Work β) := by
  change Running.GivesUp e (Dialogue.bind work (ExceptT.bindCont next))
  induction work with
  | done result =>
    cases result with
    | error e' => exact h
    | ok a => exact h.elim
  | ask q rest ih =>
    cases q with
    | acquire s => exact h.elim
    | release s => exact ih () h
    | call c =>
      cases c with
      | txDrop s => exact ih () h
      | _ => exact h.elim

theorem Running.Blames.bind {work : Work α} (h : Running.Blames scene work) {next : α → Work β}
    (after : ∀ a, Running.Blames scene (next a)) :
    Running.Blames scene (work >>= next : Work β) := by
  change Running.Blames scene (Dialogue.bind work (ExceptT.bindCont next))
  induction work with
  | done result =>
    cases result with
    | error e => exact h.elim
    | ok a => exact after a
  | ask q rest ih =>
    cases q with
    | acquire s => exact ih () h
    | release s => exact ih () h
    | call c =>
      refine ⟨h.1, fun reply => ?_⟩
      have hreply := h.2 reply
      cases hf : c.failure? reply with
      | some e =>
        simp only [hf] at hreply ⊢
        exact hreply.bind next
      | none =>
        simp only [hf] at hreply ⊢
        exact ih reply hreply

/-- Work that gives up only drops a transaction on its way. -/
theorem Running.GivesUp.transcript {e : CatalogError}
    {d : Running StoreCall StoreCall.Reply (Except CatalogError α)} (h : Running.GivesUp e d)
    (respond : (call : StoreCall) → σ → call.Reply × σ) (state : σ) :
    let t := Running.transcript respond d state
    t.result = .error e ∧ ∀ a ∈ t.asked, ∃ s, a = ⟨.txDrop s, ()⟩ := by
  induction d generalizing state with
  | done result =>
    cases result with
    | error e' => exact ⟨congrArg _ h, nofun⟩
    | ok a => exact h.elim
  | ask q next ih =>
    cases q with
    | acquire s => exact h.elim
    | release s => exact ih () h state
    | call c =>
      cases c with
      | txDrop s =>
        obtain ⟨hresult, hasked⟩ := ih _ h (respond (.txDrop s) state).2
        exact ⟨hresult, List.forall_mem_cons.mpr ⟨⟨s, rfl⟩, hasked⟩⟩
      | _ => exact h.elim

/-- **Whom an error blames.** Work fails with the error of a call that failed, and only so. -/
theorem Running.Blames.transcript
    {d : Running StoreCall StoreCall.Reply (Except CatalogError α)} (h : Running.Blames scene d)
    (respond : (call : StoreCall) → σ → call.Reply × σ) (state : σ) :
    let t := Running.transcript respond d state
    (∀ e, t.result = .error e ↔ ∃ a ∈ t.asked, a.1.failure? a.2 = some e) ∧
      ∀ a ∈ t.asked, a.1.Wants scene := by
  induction d generalizing state with
  | done result =>
    cases result with
    | error e => exact h.elim
    | ok a => exact ⟨fun e => by simp [Running.transcript], nofun⟩
  | ask q next ih =>
    cases q with
    | acquire s => exact ih () h state
    | release s => exact ih () h state
    | call c =>
      obtain ⟨wants, hnext⟩ := h
      have hreply := hnext (respond c state).1
      simp only [Running.transcript, List.forall_mem_cons, List.exists_mem_cons_iff]
      cases hf : c.failure? (respond c state).1 with
      | some e' =>
        -- what follows the call that fails cannot fail itself
        simp only [hf] at hreply
        obtain ⟨hresult, hdrops⟩ := hreply.transcript respond (respond c state).2
        refine ⟨fun e => ?_, wants, fun a ha => ?_⟩
        · rw [hresult]
          constructor
          · rintro ⟨⟩
            exact Or.inl rfl
          · rintro (he | ⟨a, ha, he⟩)
            · rw [Option.some.inj he]
            · obtain ⟨s, rfl⟩ := hdrops a ha
              cases he
        · obtain ⟨s, rfl⟩ := hdrops a ha
          trivial
      | none =>
        simp only [hf] at hreply
        obtain ⟨hresult, hwants⟩ := ih _ hreply (respond c state).2
        refine ⟨fun e => (hresult e).trans ?_, wants, hwants⟩
        simp

end Blames

/-! ## Changes -/

section Changes

variable {α : Type} {scene : Uuid}

/-- The users of a call are somebody. -/
theorem resolveUsers_ne_empty {acting : Uuid} {named : Option (List Uuid)} {users : IdSet}
    (h : resolveUsers acting named = .ok users) : users ≠ ∅ := by
  rcases named with _ | _ | ⟨user, others⟩
  · cases h
    exact IdSet.singleton_ne_empty acting
  · cases h
  · cases h
    exact IdSet.ne_empty_of_mem (IdSet.mem_ofList.mpr List.mem_cons_self)

/-- A change that is not refused at once is not refused later: the checks that it meets in the
collection have been made. -/
theorem Change.effect_succeeds {change : Change} {now : Timestamp}
    {effect : SceneFingerprints → Effect ChangeReply} (planned : change.plan now = .ok effect)
    (current : SceneFingerprints) : ∃ outcome, effect current = .ok outcome := by
  cases change with
  | submit s =>
    obtain ⟨users, husers, rfl⟩ := of_map_ok planned
    simp only [Submission.effect, SceneFingerprints.submit, dif_neg (resolveUsers_ne_empty husers)]
    cases current.get? s.claimed.fingerprint <;> exact ⟨_, rfl⟩
  | retract r =>
    obtain ⟨users, -, rfl⟩ := of_map_ok planned
    exact ⟨_, rfl⟩
  | reconcile r =>
    simp only [Change.plan] at planned
    split at planned
    · cases planned
    · rename_i hnobody
      cases planned
      simp only [Reconciliation.effect, SceneFingerprints.reconcile, if_neg hnobody]
      exact ⟨_, rfl⟩

theorem error_of_resolveUsers {acting : Uuid} {named : Option (List Uuid)} {e : CatalogError}
    (h : resolveUsers acting named = .error e) : e = .emptySubmitters := by
  rcases named with _ | _ | ⟨user, others⟩
  · cases h
  · exact (Except.error.inj h).symm
  · cases h

/-- Why a change is refused at once. -/
theorem Change.error_of_plan {change : Change} {now : Timestamp} {e : CatalogError}
    (refused : change.plan now = .error e) : e = .emptySubmitters := by
  cases change with
  | submit s => exact error_of_resolveUsers (of_map_error refused)
  | retract r => exact error_of_resolveUsers (of_map_error refused)
  | reconcile r =>
    simp only [Change.plan] at refused
    split at refused
    · exact (Except.error.inj refused).symm
    · cases refused

theorem conclude_blames (after : SceneFingerprints) (result : α) :
    Running.Blames (some scene) (conclude scene after result) := by
  refine ⟨trivial, fun saved => ?_⟩
  match saved with
  | .error e => exact rfl
  | .ok () =>
    refine ⟨trivial, fun committed => ?_⟩
    match committed with
    | .error e => exact rfl
    | .ok () => trivial

theorem changeScene_blames {effect : SceneFingerprints → Effect α}
    (succeeds : ∀ current, ∃ outcome, effect current = .ok outcome) :
    Running.Blames (some scene) (changeScene scene effect) := by
  refine ⟨rfl, fun known => ?_⟩
  match known with
  | .error e => exact rfl
  | .ok false => exact rfl
  | .ok true =>
    refine ⟨trivial, fun loaded => ?_⟩
    match loaded with
    | .error e => exact rfl
    | .ok stored =>
      obtain ⟨⟨result, saved⟩, h⟩ := succeeds (.ofRecords stored)
      cases saved with
      | none =>
        simp only [h]
        exact ⟨trivial, fun _ => trivial⟩
      | some after =>
        simp only [h]
        exact conclude_blames after result

end Changes

/-! ## Look-ups -/

section Lookups

variable {α : Type} {scene : Option Uuid}

theorem askStore_blames {call : StoreCall} (h : call.Reply = Except StoreError α)
    (wants : call.Wants scene)
    (fails : ∀ reply : call.Reply,
      match call.failure? reply with
      | some e => ofStore (h ▸ reply) = .error e
      | none => ∃ a, ofStore (h ▸ reply) = .ok a) :
    Running.Blames scene (askStore call h) := by
  refine ⟨wants, fun reply => ?_⟩
  have hreply := fails reply
  cases hf : call.failure? reply with
  | some e =>
    simp only [hf] at hreply ⊢
    rw [hreply]
    exact rfl
  | none =>
    simp only [hf] at hreply ⊢
    obtain ⟨a, ha⟩ := hreply
    rw [ha]
    trivial

theorem load_blames (other : Uuid) : Running.Blames scene (askStore (.load other) rfl) :=
  askStore_blames rfl trivial fun reply =>
    match reply with
    | .error _ => rfl
    | .ok stored => ⟨stored, rfl⟩

theorem sceneRecords_blames (s : Uuid) : Running.Blames (some s) (sceneRecords s) := by
  refine ⟨rfl, fun known => ?_⟩
  match known with
  | .error e => exact rfl
  | .ok false => exact rfl
  | .ok true => exact (load_blames s).bind fun stored => trivial

theorem collectMatches_blames (keep : Record → Bool) (scenes : List Uuid) :
    Running.Blames scene (collectMatches keep scenes) := by
  induction scenes with
  | nil => trivial
  | cons s scenes ih => exact (load_blames s).bind fun stored => ih.bind fun found => trivial

theorem findByFingerprints_blames (wanted : List Fingerprint) :
    Running.Blames scene (findByFingerprints wanted) := by
  unfold findByFingerprints
  split
  · trivial
  · refine Running.Blames.bind (askStore_blames rfl ?_ fun reply => ?_) fun scenes =>
      collectMatches_blames _ scenes
    · trivial
    · match reply with
      | .error _ => exact rfl
      | .ok scenes => exact ⟨scenes, rfl⟩

end Lookups

end SceneCatalog
