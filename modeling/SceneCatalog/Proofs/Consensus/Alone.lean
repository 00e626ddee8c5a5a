import SceneCatalog.MemoryStore
import SceneCatalog.Proofs.Locks.Discipline

/-!
What a change does when nobody comes in between. `Change.alone` says it without a store: the plain
operation on the collection that a stored list stands for. `Leads` follows a call question by
question over what it sees of its scene, and a change leads to just that.
-/
namespace SceneCatalog

/-! ## Changes without a store -/

/-- The reply to a change and the stored list of its scene afterwards, given whether the scene is
known and the stored list before. A change that names nobody is refused, and so is one of an
unknown scene; the new records are stored if the operation reports a change. -/
def Change.alone (known : Bool) (now : Timestamp) (stored : List Record) :
    Change → Except CatalogError ChangeReply × List Record
  | .submit s =>
    match resolveUsers s.acting s.users with
    | .error e => (.error e, stored)
    | .ok users =>
      if !known then (.error (.sceneNotFound s.scene), stored)
      else
        match (SceneFingerprints.ofRecords stored).submit s.claimed users now with
        | .error e => (.error e, stored)
        | .ok (outcome, record, after) =>
          (.ok (.submitted ⟨outcome, record⟩),
            if outcome.isChange then after.records else stored)
  | .retract r =>
    match resolveUsers r.acting r.users with
    | .error e => (.error e, stored)
    | .ok users =>
      if !known then (.error (.sceneNotFound r.scene), stored)
      else
        let (outcome, after) := (SceneFingerprints.ofRecords stored).retract r.fingerprint users now
        (.ok (.retracted ⟨outcome, after.get? r.fingerprint⟩),
          if outcome.isChange then after.records else stored)
  | .reconcile r =>
    if r.desired.any Edit.namesNobody then (.error .emptySubmitters, stored)
    else if !known then (.error (.sceneNotFound r.scene), stored)
    else
      match (SceneFingerprints.ofRecords stored).reconcile r.desired r.acting now with
      | .error e => (.error e, stored)
      | .ok (summary, after) =>
        (.ok (.reconciled ⟨summary, after.records⟩),
          if summary.isChange then after.records else stored)

/-- What becomes of a stored list when an effect is applied to it. -/
def Effect.settle (known : Bool) (scene : Uuid) (stored : List Record)
    (effect : SceneFingerprints → Effect α) : Except CatalogError α × List Record :=
  if !known then (.error (.sceneNotFound scene), stored)
  else
    match effect (.ofRecords stored) with
    | .error e => (.error e, stored)
    | .ok (result, none) => (.ok result, stored)
    | .ok (result, some after) => (.ok result, after.records)

theorem Change.alone_eq (change : Change) (known : Bool) (now : Timestamp) (stored : List Record) :
    change.alone known now stored =
      match change.plan now with
      | .error e => (.error e, stored)
      | .ok effect => Effect.settle known change.scene stored effect := by
  cases change with
  | submit s =>
    simp only [alone, plan]
    cases resolveUsers s.acting s.users with
    | error e => rfl
    | ok users =>
      cases known with
      | false => rfl
      | true =>
        simp only [Except.map, Effect.settle, Submission.effect, Change.scene]
        cases (SceneFingerprints.ofRecords stored).submit s.claimed users now with
        | error e => rfl
        | ok r =>
          obtain ⟨outcome, record, after⟩ := r
          cases h : outcome.isChange <;> simp [h]
  | retract r =>
    simp only [alone, plan]
    cases resolveUsers r.acting r.users with
    | error e => rfl
    | ok users =>
      cases known with
      | false => rfl
      | true =>
        simp only [Except.map, Effect.settle, Retraction.effect, Change.scene]
        generalize (SceneFingerprints.ofRecords stored).retract r.fingerprint users now = r
        obtain ⟨outcome, after⟩ := r
        cases outcome.isChange <;> simp
  | reconcile r =>
    simp only [alone, plan]
    split
    · rfl
    · cases known with
      | false => rfl
      | true =>
        simp only [Except.map, Effect.settle, Reconciliation.effect, Change.scene]
        cases (SceneFingerprints.ofRecords stored).reconcile r.desired r.acting now with
        | error e => rfl
        | ok r =>
          obtain ⟨summary, after⟩ := r
          cases h : summary.isChange <;> simp [h]

/-! ## What a call sees of its scene -/

/-- What a call that nobody disturbs sees of a store that refuses nothing: whether its scene is
known, the stored list, and the list that a commit would leave. -/
structure SceneView where
  known : Bool
  /-- Whether saves wait for the commit. -/
  staging : Bool
  records : List Record
  ahead : List Record

namespace SceneView

def save (v : SceneView) (records : List Record) : SceneView :=
  { v with records := if v.staging then v.records else records, ahead := records }

def commit (v : SceneView) : SceneView := { v with records := v.ahead }

def drop (v : SceneView) : SceneView := { v with ahead := v.records }

end SceneView

/-- A call that only drops transactions, and then has this result. -/
def Running.Tidies {α : Type} (result : α) : Running StoreCall StoreCall.Reply α → Prop
  | .done a => a = result
  | .ask (.call (.txDrop _)) next => Tidies result (next ())
  | _ => False

/-- Going on from what it sees, a call makes calls of its scene and then gives the lock back, with
`final` as the stored list and `result` as its result. -/
def Running.Leads {α : Type} (scene : Uuid) (result : α) (final : List Record) :
    Running StoreCall StoreCall.Reply α → SceneView → Prop
  | .ask (.acquire _) next, v => Leads scene result final (next ()) v
  | .ask (.release _) next, v => v.records = final ∧ Tidies result (next ())
  | .ask (.call (.sceneExists s)) next, v =>
    s = scene ∧ Leads scene result final (next (.ok v.known)) v
  | .ask (.call (.txLoad s)) next, v =>
    s = scene ∧ Leads scene result final (next (.ok v.records)) v
  | .ask (.call (.txSave s records)) next, v =>
    s = scene ∧ Leads scene result final (next (.ok ())) (v.save records)
  | .ask (.call (.txCommit s)) next, v =>
    s = scene ∧ Leads scene result final (next (.ok ())) v.commit
  | .ask (.call (.txDrop s)) next, v =>
    s = scene ∧ Leads scene result final (next ()) v.drop
  | _, _ => False

/-- The calls that a change makes of its scene. -/
def StoreCall.Of (scene : Uuid) : StoreCall → Prop
  | .sceneExists s | .txLoad s | .txSave s _ | .txCommit s | .txDrop s => s = scene
  | _ => False

theorem Running.Leads.of {α : Type} {scene : Uuid} {result : α} {final : List Record}
    {call : StoreCall} {next : call.Reply → Running StoreCall StoreCall.Reply α} {v : SceneView}
    (h : Running.Leads scene result final (.ask (.call call) next) v) : call.Of scene := by
  cases call with
  | sceneExists s => exact h.1
  | txLoad s => exact h.1
  | txSave s records => exact h.1
  | txCommit s => exact h.1
  | txDrop s => exact h.1
  | _ => exact absurd h id

theorem Running.Tidies.drops {α : Type} {result : α} {call : StoreCall}
    {next : call.Reply → Running StoreCall StoreCall.Reply α}
    (h : Running.Tidies result (.ask (.call call) next)) (reply : call.Reply) :
    (∃ s, call = .txDrop s) ∧ Running.Tidies result (next reply) := by
  cases call with
  | txDrop s => exact ⟨⟨s, rfl⟩, h⟩
  | _ => exact absurd h id

/-! ## Changes lead to what they do alone -/

section Leads

variable {α : Type} (scene : Uuid) (v : SceneView)

theorem leave_leads (result : Except CatalogError α) :
    Running.Leads scene result v.records (leave scene result) v :=
  ⟨rfl, rfl⟩

theorem conclude_leads (after : SceneFingerprints) (result : α) :
    Running.Leads scene (.ok result) after.records (conclude scene after result) v :=
  ⟨rfl, rfl, rfl, rfl⟩

theorem changeScene_leads (effect : SceneFingerprints → Effect α) :
    Running.Leads scene (Effect.settle v.known scene v.records effect).1
      (Effect.settle v.known scene v.records effect).2 (changeScene scene effect) v := by
  refine ⟨rfl, ?_⟩
  unfold Effect.settle
  cases hk : v.known with
  | false => exact ⟨rfl, rfl⟩
  | true =>
    refine ⟨rfl, ?_⟩
    cases h : effect (.ofRecords v.records) with
    | error e => simpa [h] using leave_leads scene v (.error e)
    | ok outcome =>
      obtain ⟨result, after | after⟩ := outcome
      · simpa [h] using leave_leads scene v (.ok result)
      · simpa [h] using conclude_leads scene v after result

end Leads

/-- A change that asks for the lock leads to the reply and the stored list that it has alone. -/
theorem Change.run_leads {change : Change} {now : Timestamp} (v : SceneView)
    (asks : Running.Asking change.scene (change.run now : Work ChangeReply)) :
    Running.Leads change.scene (change.alone v.known now v.records).1
      (change.alone v.known now v.records).2 (change.run now) v := by
  rw [Change.alone_eq]
  rw [Change.run_eq] at asks ⊢
  cases h : change.plan now with
  | error e =>
    rw [h] at asks
    exact absurd asks id
  | ok effect => exact changeScene_leads change.scene v effect

/-- A change that does not ask for the lock is refused whatever is stored. -/
theorem Change.alone_of_free {change : Change} {now : Timestamp}
    (free : Running.Free (change.run now : Work ChangeReply)) :
    ∃ e, change.run now = (.done (.error e) : Work ChangeReply) ∧
      ∀ known stored, change.alone known now stored = (.error e, stored) := by
  cases h : change.plan now with
  | error e =>
    refine ⟨e, by rw [Change.run_eq, h], fun known stored => ?_⟩
    rw [Change.alone_eq, h]
  | ok effect =>
    rw [Change.run_eq, h] at free
    exact absurd free id

end SceneCatalog
