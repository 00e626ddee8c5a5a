import SceneCatalog.Proofs.Catalog.Criteria
import SceneCatalog.Proofs.Catalog.Lookup
import SceneCatalog.Proofs.Consensus.Blame

/-!
What the errors of the catalog tell. Main statement: an error that puts the blame on the request is
given before anything has been asked, of the store or of the locks; any other one says that the
scene asked for is not known, or is that of the store, word for word.
-/
namespace SceneCatalog

/-! ## Requests at fault -/

theorem error_of_normalizeAnyHash {raws : List String} {e : CatalogError}
    (h : raws.mapM normalizeAnyHash = .error e) : e.isValidation = true := by
  rcases mapM_normalizeAnyHash raws with ⟨-, hall⟩ | ⟨raw, -, -, fault, hmap⟩
  · cases hall.symm.trans h
  · cases hmap.symm.trans h
    rfl

theorem Criterion.error_of_compile {relation : Relation} {c : Criterion} {e : CatalogError}
    (h : c.compile relation = .error e) : e.isValidation = true := by
  unfold Criterion.compile at h
  dsimp only at h
  split at h
  · cases h
    rfl
  · split at h <;> cases h
    rfl

theorem Filter.error_of_compile {filter : Filter} {e : CatalogError}
    (h : filter.compile = .error e) : e.isValidation = true := by
  rcases of_bind_error h with h | ⟨criteria, -, h⟩
  · obtain ⟨relation, -, hpart⟩ := of_filterMapM_error h
    obtain ⟨c, -, hfault⟩ := of_part_error hpart
    exact Criterion.error_of_compile hfault
  · cases h

theorem Page.error_of_ofSpec {spec : PageSpec} {max : UInt32} {e : CatalogError}
    (h : Page.ofSpec spec max = .error e) : e.isValidation = true := by
  unfold Page.ofSpec Page.of at h
  split at h
  · split at h <;> cases h
    rfl
  · cases h
    rfl

/-- Work that is refused at once for what it is asked to do, or that blames its store. -/
def Running.Judges {α : Type} (scene : Option Uuid) (work : Work α) : Prop :=
  (∃ e : CatalogError, e.isValidation = true ∧ work = .done (.error e)) ∨
    Running.Blames scene work

/-- What is asked to be done is checked before the work begins. -/
theorem Running.Judges.settled {α β : Type} {scene : Option Uuid} {result : Except CatalogError α}
    {next : α → Work β} (fault : ∀ e, result = .error e → e.isValidation = true)
    (after : ∀ a, Running.Judges scene (next a)) :
    Running.Judges scene (ExceptT.mk (.done result) >>= next : Work β) := by
  cases result with
  | error e => exact Or.inl ⟨e, fault e rfl, rfl⟩
  | ok a => exact after a

/-! ## Calls of the catalog -/

/-- A call of the catalog: a change of a scene, or a look-up. -/
inductive CatalogCall where
  | change (change : Change)
  | sceneRecords (scene : Uuid)
  | findByFingerprints (wanted : List Fingerprint)
  | findByHashes (raws : List String)
  | queryScenes (filter : Filter) (spec : PageSpec) (max : UInt32)

namespace CatalogCall

abbrev Reply : CatalogCall → Type
  | .change _ => ChangeReply
  | .sceneRecords _ => List Record
  | .findByFingerprints _ => List Match
  | .findByHashes _ => List Match
  | .queryScenes _ _ _ => PageOf Scene

def run (now : Timestamp) : (call : CatalogCall) → Work call.Reply
  | .change c => c.run now
  | .sceneRecords scene => SceneCatalog.sceneRecords scene
  | .findByFingerprints wanted => SceneCatalog.findByFingerprints wanted
  | .findByHashes raws => SceneCatalog.findByHashes raws
  | .queryScenes filter spec max => SceneCatalog.queryScenes filter spec max

/-- The scene that is asked for. -/
def scene? : CatalogCall → Option Uuid
  | .change c => some c.scene
  | .sceneRecords scene => some scene
  | _ => none

theorem judges (call : CatalogCall) (now : Timestamp) :
    Running.Judges call.scene? (call.run now) := by
  cases call with
  | change c =>
    simp only [run, c.run_eq]
    cases planned : c.plan now with
    | error e =>
      refine Or.inl ⟨e, ?_, rfl⟩
      rw [Change.error_of_plan planned]
      rfl
    | ok effect => exact Or.inr (changeScene_blames (Change.effect_succeeds planned))
  | sceneRecords scene => exact Or.inr (sceneRecords_blames scene)
  | findByFingerprints wanted => exact Or.inr (findByFingerprints_blames wanted)
  | findByHashes raws =>
    refine Running.Judges.settled (fun e h => error_of_normalizeAnyHash h) fun hashes => Or.inr ?_
    dsimp only
    split
    · trivial
    · refine Running.Blames.bind (askStore_blames rfl ?_ fun reply => ?_) fun scenes =>
        collectMatches_blames _ scenes
      · trivial
      · rcases reply with e | scenes
        · exact rfl
        · exact ⟨scenes, rfl⟩
  | queryScenes filter spec max =>
    refine Running.Judges.settled (fun e h => Filter.error_of_compile h) fun compiled => ?_
    refine Running.Judges.settled (fun e h => Page.error_of_ofSpec h) fun page => Or.inr ?_
    refine Running.Blames.bind (askStore_blames rfl ?_ fun reply => ?_) fun found => trivial
    · trivial
    · rcases reply with e | found
      · exact rfl
      · exact ⟨found, rfl⟩

end CatalogCall

/-- What the errors of a call tell, when it has been run out of some locks and a state of its store
and has made these calls of the store. -/
structure Truthful {σ : Type} (call : CatalogCall) (now : Timestamp) (locks : LockTable) (state : σ)
    (made : List (Answered StoreCall StoreCall.Reply))
    (ran : Dialogue.Transcript (Ask StoreCall) (Except CatalogError call.Reply) (LockTable × σ)) :
    Prop where
  calls : ran.asked.filterMap Ask.call? = made.map (·.1)
  /-- Where the request is at fault, the call is over before it begins, in any surroundings. -/
  validated : ∀ e, ran.result = .error e → e.isValidation = true →
    call.run now = .done (.error e) ∧ ran.asked = [] ∧ ran.state = (locks, state)
  /-- Any other error has a call to blame. -/
  classified : ∀ e, ran.result = .error e → e.isValidation = false →
    (∃ scene, e = .sceneNotFound scene ∧ call.scene? = some scene) ∨ ∃ fault, e = .store fault
  unknown : ∀ scene, ran.result = .error (.sceneNotFound scene) ↔
    (⟨.sceneExists scene, .ok false⟩ : Answered StoreCall StoreCall.Reply) ∈ made
  refused : ∀ fault, ran.result = .error (.store fault) ↔
    ∃ a ∈ made, a.1.refusal? a.2 = some fault

theorem failure?_eq_sceneNotFound_iff {call : StoreCall} {reply : call.Reply} {scene : Uuid} :
    call.failure? reply = some (.sceneNotFound scene) ↔
      (⟨call, reply⟩ : Answered StoreCall StoreCall.Reply) = ⟨.sceneExists scene, .ok false⟩ := by
  constructor
  · intro h
    cases call with
    | sceneExists s =>
      match reply with
      | .ok true => cases h
      | .error _ => cases h
      | .ok false =>
        cases h
        rfl
    | _ => simp [StoreCall.failure?] at h
  · intro h
    cases h
    rfl

theorem failure?_eq_store_iff {call : StoreCall} {reply : call.Reply} {fault : StoreError} :
    call.failure? reply = some (.store fault) ↔ call.refusal? reply = some fault := by
  refine ⟨fun h => ?_, MemoryStore.failure?_of_refusal⟩
  cases call with
  | sceneExists s =>
    match reply with
    | .ok true => cases h
    | .ok false => cases h
    | .error _ =>
      cases h
      rfl
  | _ => simpa [StoreCall.failure?] using h

/-- A call does not fail with an error that blames the request. -/
theorem isValidation_of_failure? {call : StoreCall} {reply : call.Reply} {e : CatalogError}
    (h : call.failure? reply = some e) : e.isValidation = false := by
  cases call with
  | sceneExists s =>
    match reply with
    | .ok true => cases h
    | .ok false =>
      cases h
      rfl
    | .error _ =>
      cases h
      rfl
  | txDrop s => cases h
  | _ =>
    obtain ⟨fault, -, rfl⟩ := Option.map_eq_some_iff.mp h
    rfl

/-- **Errors tell the truth**, whatever is asked for and whatever the store answers. -/
theorem errors_truthful {σ : Type} (respond : (call : StoreCall) → σ → call.Reply × σ)
    (call : CatalogCall) (now : Timestamp) (locks : LockTable) (state : σ) :
    Truthful call now locks state (Running.transcript respond (call.run now) state).asked
      (Dialogue.run (respondAlone respond) (call.run now) (locks, state)) := by
  obtain ⟨hresult, -, hcalls⟩ := run_respondAlone respond (call.run now) locks state
  rcases call.judges now with ⟨e, hvalid, hrun⟩ | blames
  · -- the work is over at once, with an error that is none of the store
    have hdone : (Dialogue.run (respondAlone respond) (call.run now) (locks, state)) =
        ⟨.error e, (locks, state), []⟩ := by rw [hrun]; rfl
    have hmade : (Running.transcript respond (call.run now) state).asked = [] := by rw [hrun]; rfl
    rw [hdone, hmade]
    refine ⟨rfl, fun e' he _ => ?_, fun e' he hstore => ?_, fun scene => ?_, fun fault => ?_⟩
    · cases he
      exact ⟨hrun, rfl, rfl⟩
    · cases he
      rw [hvalid] at hstore
      cases hstore
    · simp only [List.not_mem_nil, iff_false]
      rintro ⟨⟩
      cases hvalid
    · simp only [List.not_mem_nil, false_and, exists_false, iff_false]
      rintro ⟨⟩
      cases hvalid
  · obtain ⟨hfails, hwants⟩ := blames.transcript respond state
    refine ⟨hcalls, fun e he hvalid => ?_, fun e he _ => ?_, fun scene => ?_, fun fault => ?_⟩
    · rw [hresult, hfails] at he
      obtain ⟨a, -, ha⟩ := he
      rw [isValidation_of_failure? ha] at hvalid
      cases hvalid
    · rw [hresult, hfails] at he
      obtain ⟨⟨asked, reply⟩, ha, hfailed⟩ := he
      cases e with
      | sceneNotFound scene =>
        cases failure?_eq_sceneNotFound_iff.mp hfailed
        exact Or.inl ⟨scene, rfl, hwants _ ha⟩
      | store fault => exact Or.inr ⟨fault, rfl⟩
      | _ => cases isValidation_of_failure? hfailed
    · rw [hresult, hfails]
      constructor
      · rintro ⟨a, ha, hfailed⟩
        rwa [← failure?_eq_sceneNotFound_iff.mp hfailed]
      · exact fun ha => ⟨_, ha, rfl⟩
    · rw [hresult, hfails]
      exact exists_congr fun a => and_congr_right fun _ => failure?_eq_store_iff

end SceneCatalog
