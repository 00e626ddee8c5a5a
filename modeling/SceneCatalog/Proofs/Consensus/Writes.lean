import SceneCatalog.Proofs.Consensus.Course
import SceneCatalog.Proofs.Consensus.History
import SceneCatalog.Proofs.Fingerprints.Difference

/-!
When a change writes. Main statement: a change that succeeds reports a change exactly when the
collection of its scene is another one afterwards, and then saves and commits just that collection,
once; otherwise it neither saves nor commits, and the stored list stays what it was, even where it
repeats a fingerprint.
-/
namespace SceneCatalog

/-- Whether the reply to a change reports that something has changed. -/
def ChangeReply.isChange : ChangeReply → Bool
  | .submitted reply => reply.outcome.isChange
  | .retracted reply => reply.outcome.isChange
  | .reconciled reply => reply.summary.isChange

variable {change : Change} {now : Timestamp} {current : SceneFingerprints} {reply : ChangeReply}

/-- What the plan of a change is to store is what the change makes of the collection, if the reply
reports a change. -/
theorem Change.effect_spec {effect : SceneFingerprints → Effect ChangeReply}
    {saved : Option SceneFingerprints} (planned : change.plan now = .ok effect)
    (h : effect current = .ok (reply, saved)) :
    ∃ after, change.applied now current = .ok after ∧
      (reply.isChange = true ↔ after ≠ current) ∧
      saved = if reply.isChange then some after else none := by
  cases change with
  | submit s =>
    obtain ⟨users, husers, rfl⟩ := of_map_ok planned
    obtain ⟨⟨submitted, _⟩, heffect, hreply⟩ := of_map_ok h
    cases hreply
    obtain ⟨⟨outcome, record, after⟩, hsubmit, houtcome⟩ := of_map_ok heffect
    cases houtcome
    refine ⟨after, ?_, SceneFingerprints.submit_isChange_iff hsubmit, rfl⟩
    simp [applied, husers, Except.bind, hsubmit, Except.map]
  | retract r =>
    obtain ⟨users, husers, rfl⟩ := of_map_ok planned
    cases h
    refine ⟨(current.retract r.fingerprint users now).2, ?_,
      SceneFingerprints.retract_isChange_iff current r.fingerprint users now, rfl⟩
    simp [applied, husers, Except.map]
  | reconcile r =>
    simp only [plan] at planned
    split at planned
    · cases planned
    cases planned
    obtain ⟨⟨reconciled, _⟩, heffect, hreply⟩ := of_map_ok h
    cases hreply
    obtain ⟨⟨summary, after⟩, hreconcile, hsummary⟩ := of_map_ok heffect
    cases hsummary
    refine ⟨after, ?_, SceneFingerprints.reconcile_isChange_iff hreconcile, rfl⟩
    simp [applied, hreconcile, Except.map]

/-- What is loaded is what is stored. -/
theorem Answers.of_load {store final : MemoryStore} {i : Nat} {scene : Uuid}
    {known : Except StoreError Bool} {stored : List Record}
    {rest : List (Answered StoreCall StoreCall.Reply)}
    (h : Answers (MemoryStore.respond i) store
      (⟨.sceneExists scene, known⟩ :: ⟨.txLoad scene, .ok stored⟩ :: rest) final) :
    stored = store.catalog.records scene := by
  obtain ⟨-, hload, -⟩ := h
  have hstored := MemoryStore.of_load hload
  rwa [store.state_of_exists i scene] at hstored

/-- **A change writes exactly when it changes something.** -/
theorem writes_iff_changes (store : MemoryStore) (clean : store.staged = []) (locks : LockTable)
    (change : Change) (now : Timestamp) {reply : ChangeReply}
    (succeeds : (Dialogue.run (respondAlone (MemoryStore.respond 0)) (change.run now)
      (locks, store)).result = .ok reply) :
    let scene := change.scene
    let before := SceneFingerprints.ofRecords (store.catalog.records scene)
    let ran := Dialogue.run (respondAlone (MemoryStore.respond 0)) (change.run now) (locks, store)
    ∃ after, change.applied now before = .ok after ∧ (reply.isChange = true ↔ after ≠ before) ∧
      if reply.isChange then
        ran.asked.filterMap Ask.call? =
            [.sceneExists scene, .txLoad scene, .txSave scene after.records, .txCommit scene] ∧
          ran.state.2.catalog = store.catalog.save scene after.records
      else
        ran.asked.filterMap Ask.call? = [.sceneExists scene, .txLoad scene, .txDrop scene] ∧
          ran.state.2.catalog = store.catalog := by
  intro scene before ran
  obtain ⟨hresult, hstate, hasked⟩ :=
    run_respondAlone (MemoryStore.respond 0) (change.run now) locks store
  have hcourse := change.course now (MemoryStore.respond 0) store
  rw [hresult] at succeeds
  rw [hstate, hasked]
  clear hresult hstate hasked ran
  generalize Running.transcript (MemoryStore.respond 0) (change.run now) store = t at *
  obtain ⟨result, state, made⟩ := t
  obtain rfl : result = .ok reply := succeeds
  rcases hcourse with ⟨e, -, hrefused⟩ | ⟨effect, saved, planned, course, answers⟩
  · cases hrefused
  have hcatalog := congrArg MemoryStore.catalog (course.stores answers clean)
  dsimp only at course answers hcatalog
  -- only two courses come to a reply: the one with nothing to write, and the one that writes
  cases course with
  | unchanged h =>
    obtain rfl := answers.of_load
    obtain ⟨after, happlied, hchange, hsaved⟩ := Change.effect_spec planned h
    have hsilent : reply.isChange = false := by
      by_contra hr
      simp [hr] at hsaved
    refine ⟨after, happlied, hchange, ?_⟩
    simp [hsilent, hcatalog, scene]
  | written h =>
    obtain rfl := answers.of_load
    obtain ⟨after, happlied, hchange, hsaved⟩ := Change.effect_spec planned h
    have hloud : reply.isChange = true := by
      by_contra hr
      simp [hr] at hsaved
    rw [hloud, if_pos rfl] at hsaved
    cases hsaved
    refine ⟨_, happlied, hchange, ?_⟩
    simp [hloud, hcatalog, scene]

/-- A store where a scene has two records for one fingerprint, of users 1 and 2. -/
def repeatedRecords : MemoryStore :=
  .of ((Catalog.ofScenes [.bare (.ofNat 0) ⟨0, 0⟩]).save (.ofNat 0)
    [.ofUser ⟨.sample, 10⟩ (.ofNat 1) ⟨1, 0⟩, .ofUser ⟨.sample, 10⟩ (.ofNat 2) ⟨2, 0⟩]) true

/-- User 2 leaves the one record that the two stand for. -/
def departure :
    Dialogue.Transcript (Ask StoreCall) (Except CatalogError ChangeReply)
      (LockTable × MemoryStore) :=
  Dialogue.run (respondAlone (MemoryStore.respond 0))
    ((Change.retract ⟨.ofNat 0, .sample, .ofNat 2, none⟩).run ⟨3, 0⟩) (∅, repeatedRecords)

theorem writes_iff_changes_repeated :
    ∃ reply, departure.result = .ok reply ∧ reply.isChange = true ∧
      ∃ after : SceneFingerprints, departure.asked.filterMap Ask.call? =
        [.sceneExists (.ofNat 0), .txLoad (.ofNat 0), .txSave (.ofNat 0) after.records,
          .txCommit (.ofNat 0)] := by
  have succeeds : ∃ reply, departure.result = .ok reply ∧ reply.isChange = true := ⟨_, rfl, rfl⟩
  obtain ⟨reply, hresult, hchange⟩ := succeeds
  obtain ⟨after, -, -, hwrites⟩ := writes_iff_changes repeatedRecords rfl ∅ _ _ hresult
  rw [if_pos hchange] at hwrites
  exact ⟨reply, hresult, hchange, after, hwrites.1⟩

end SceneCatalog
