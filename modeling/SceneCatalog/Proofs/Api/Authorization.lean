import SceneCatalog.Proofs.Api.Credentials
import SceneCatalog.Proofs.Api.Handling
import SceneCatalog.Proofs.Consensus.Reading
import SceneCatalog.Proofs.Consensus.Submitters

/-!
What users may do. Main statement: whatever requests come in, the catalog is read or written only
for a user who shows a token that counts and has a role that suffices for the call. Unless the user
is an administrator, a request makes nobody else a submitter of anything, and a request to submit
or withdraw does not take anybody else out.
-/
namespace SceneCatalog

theorem Actor.has_eq_true_iff {actor : Actor} {role : Role} :
    actor.has role = true ↔ ∃ granted ∈ actor.roles, role.rank ≤ granted.rank := by
  simp [Actor.has, Role.includes]

/-- No role stands above that of an administrator. -/
theorem Actor.has_admin_iff {actor : Actor} : actor.has .admin = true ↔ .admin ∈ actor.roles := by
  rw [has_eq_true_iff]
  constructor
  · rintro ⟨granted, hmem, hrank⟩
    cases granted with
    | admin => exact hmem
    | read => exact absurd hrank (by decide)
    | modify => exact absurd hrank (by decide)
  · exact fun hmem => ⟨.admin, hmem, Nat.le_refl _⟩

namespace Api

variable {s : Service} {now : Timestamp} {r : Request} {endpoint : Endpoint} {work : Answering}

/-! ## What is asked of the store -/

/-- A user who may make a call of the service shows a token, and has a role that suffices. -/
def Permitted (s : Service) (now : Timestamp) (r : Request) (endpoint : Endpoint) : Prop :=
  ∃ role actor, endpoint.role? = some role ∧ r.Shows s.secret now actor ∧
    ∃ granted ∈ actor.roles, role.rank ≤ granted.rank

theorem Serves.permitted (h : Serves s now r endpoint work) :
    work.Only (· = .call .checkHealth) ∨ Permitted s now r endpoint := by
  have permitted : ∀ {role actor}, r.actor s.secret now = .ok actor → actor.has role = true →
      endpoint.role? = some role → Permitted s now r endpoint := fun shown has needs =>
    ⟨_, _, needs, Request.actor_eq_ok_iff.mp shown, Actor.has_eq_true_iff.mp has⟩
  cases h with
  | settled response => exact Or.inl trivial
  | probe =>
    exact Or.inl ⟨rfl, fun
      | .ok () => trivial
      | .error _ => trivial⟩
  | change change shown role makes acting named =>
    refine Or.inr (permitted shown role ?_)
    cases endpoint with
    | submit => rfl
    | reconcile part => rfl
    | _ => exact makes.elim
  | fingerprints shown role wanted => exact Or.inr (permitted shown role rfl)
  | hashes shown role wanted => exact Or.inr (permitted shown role rfl)
  | scene shown role scene => exact Or.inr (permitted shown role rfl)
  | query shown role filter spec => exact Or.inr (permitted shown role rfl)

theorem Handles.permitted (h : Handles s now r work) :
    work.Only (· = .call .checkHealth) ∨
      ∃ endpoint, s.endpoint? r = some endpoint ∧ Permitted s now r endpoint := by
  cases h with
  | settled response => exact Or.inl trivial
  | served asks serves finish =>
    exact serves.permitted.imp (fun only => only.bind fun _ => trivial) fun permitted =>
      ⟨_, asks, permitted⟩

/-! ## What becomes of the catalog -/

/-- What a request can make of a catalog: nothing, or what one change in the name of its user makes
of it, where users are named by administrators only. -/
inductive Moves (s : Service) (now : Timestamp) (r : Request) (c : Catalog) : Catalog → Prop
  | stays : Moves s now r c c
  | changes {endpoint : Endpoint} {actor : Actor} {change : Change} {after : SceneFingerprints}
      (asks : s.endpoint? r = some endpoint) (makes : endpoint.Makes change)
      (shown : r.Shows s.secret now actor) (acting : change.acting = actor.user)
      (named : change.namesUsers = true → .admin ∈ actor.roles)
      (applied : change.applied now (.ofRecords (c.records change.scene)) = .ok after) :
      Moves s now r c (c.save change.scene after.records)

theorem answering_looks {α : Type} {view : α → Json} {work : Work α}
    (h : Dialogue.Only Ask.looks work) : (answering view work).Only Ask.looks :=
  h.bind fun _ => trivial

/-- Whatever can be done for a request makes a change or only looks things up. -/
@[elab_as_elim]
theorem Serves.cases_looks {motive : Answering → Prop} (h : Serves s now r endpoint work)
    (looks : ∀ work, work.Only Ask.looks → motive work)
    (changes : ∀ (actor : Actor) (change : Change), r.actor s.secret now = .ok actor →
      endpoint.Makes change → change.acting = actor.user →
      (change.namesUsers = true → actor.has .admin = true) →
      (∀ f duration, change.stated? f = some duration → States s r duration endpoint) →
      motive (answering (viewReply actor.user change.scene) (change.run now))) :
    motive work := by
  cases h with
  | settled response => exact looks _ trivial
  | probe =>
    exact looks _ ⟨rfl, fun
      | .ok () => trivial
      | .error _ => trivial⟩
  | change change shown role makes acting named states =>
    exact changes _ change shown makes acting named states
  | fingerprints shown role wanted => exact looks _ (answering_looks (findByFingerprints_looks _))
  | hashes shown role wanted => exact looks _ (answering_looks (findByHashes_looks _))
  | scene shown role scene => exact looks _ (answering_looks (sceneRecords_looks _))
  | query shown role filter spec => exact looks _ (answering_looks (queryScenes_looks _ _ _))

theorem Serves.moves (h : Serves s now r endpoint work) (asks : s.endpoint? r = some endpoint)
    (store : MemoryStore) (clean : store.staged = []) :
    let t := Running.transcript (MemoryStore.respond 0) work store
    t.state.staged = [] ∧ Moves s now r store.catalog t.state.catalog := by
  refine h.cases_looks (fun work only => ?_) fun actor change shown makes acting named _ => ?_
  · dsimp only
    rw [MemoryStore.transcript_of_looks only store 0]
    exact ⟨clean, .stays⟩
  · rw [answering_transcript]
    obtain ⟨hstaged, hsame | ⟨after, happlied, hcatalog⟩⟩ := change.leaves now store 0 clean
    · refine ⟨hstaged, ?_⟩
      dsimp only
      rw [hsame]
      exact .stays
    · refine ⟨hstaged, ?_⟩
      dsimp only
      rw [hcatalog]
      exact .changes asks makes (Request.actor_eq_ok_iff.mp shown) acting
        (fun h => Actor.has_admin_iff.mp (named h)) happlied

theorem Handles.moves (h : Handles s now r work) (store : MemoryStore)
    (clean : store.staged = []) :
    let t := Running.transcript (MemoryStore.respond 0) work store
    t.state.staged = [] ∧ Moves s now r store.catalog t.state.catalog := by
  cases h with
  | settled response => exact ⟨clean, .stays⟩
  | served asks serves finish =>
    rw [transcript_bind]
    exact serves.moves asks store clean

section Users

variable {c c' : Catalog} {scene : Uuid} {f : Fingerprint} {u : Uuid}

/-- The user of a request, where it shows no administrator, is the only one who may become a
submitter. -/
theorem Moves.credits (h : Moves s now r c c')
    (plain : ∀ actor, r.Shows s.secret now actor → .admin ∉ actor.roles)
    (backs : c'.Backs scene f u) :
    c.Backs scene f u ∨ ∃ actor, r.Shows s.secret now actor ∧ u = actor.user := by
  cases h with
  | stays => exact Or.inl backs
  | @changes endpoint actor change after asks makes shown acting named applied =>
    -- to name users takes an administrator, so whoever the change credits is the one who acts
    have hnamed : change.namesUsers = false :=
      Bool.eq_false_iff.mpr fun h => plain _ shown (named h)
    rw [Change.backs_iff applied] at backs
    split at backs
    · rcases backs with ⟨hbefore, -⟩ | hcredits
      · exact Or.inl hbefore
      · exact Or.inr ⟨actor, shown, acting ▸ Change.eq_acting_of_credits hnamed hcredits⟩
    · exact Or.inl backs

/-- Where it is a request to submit or withdraw, the user is also the only one who may cease to be
one. -/
theorem Moves.withdrawals (h : Moves s now r c c')
    (plain : ∀ actor, r.Shows s.secret now actor → .admin ∉ actor.roles)
    (submits : s.endpoint? r = some .submit) (backs : c.Backs scene f u) :
    c'.Backs scene f u ∨ ∃ actor, r.Shows s.secret now actor ∧ u = actor.user := by
  cases h with
  | stays => exact Or.inl backs
  | @changes endpoint actor change after asks makes shown acting named applied =>
    have hnamed : change.namesUsers = false :=
      Bool.eq_false_iff.mpr fun h => plain _ shown (named h)
    obtain rfl : endpoint = .submit := Option.some.inj (asks.symm.trans submits)
    have single : ∀ reconciliation, change ≠ .reconcile reconciliation := by
      rintro reconciliation rfl
      exact makes
    rw [Change.backs_iff applied]
    split
    · by_cases hw : change.Withdraws f u
      · exact Or.inr ⟨actor, shown, acting ▸ Change.eq_acting_of_withdraws hnamed single hw⟩
      · exact Or.inl (Or.inl ⟨backs, hw⟩)
    · exact Or.inl backs

end Users

/-! ## Sessions -/

/-- An exchange in which nothing happens that its user may not do. -/
structure Exchange.Authorized (s : Service) (x : Exchange MemoryStore) : Prop where
  /-- Only the health of the store is looked at without a token and a role that suffices. -/
  calls : ∀ call ∈ x.calls, call ≠ .checkHealth →
    ∃ endpoint, s.endpoint? x.request = some endpoint ∧ Permitted s x.now x.request endpoint
  /-- Nobody but the user becomes a submitter, unless an administrator says so. -/
  credits : (∀ actor, x.request.Shows s.secret x.now actor → .admin ∉ actor.roles) →
    ∀ scene f u, x.after.catalog.Backs scene f u →
      x.before.catalog.Backs scene f u ∨
        ∃ actor, x.request.Shows s.secret x.now actor ∧ u = actor.user
  /-- Nor does anybody else cease to be one by a request to submit or withdraw. -/
  withdrawals : (∀ actor, x.request.Shows s.secret x.now actor → .admin ∉ actor.roles) →
    s.endpoint? x.request = some .submit → ∀ scene f u, x.before.catalog.Backs scene f u →
      x.after.catalog.Backs scene f u ∨
        ∃ actor, x.request.Shows s.secret x.now actor ∧ u = actor.user

/-- One request does nothing that its user may not do, and leaves nothing staged. -/
theorem exchange_authorized (s : Service) (now : Timestamp) (r : Request)
    (around : Surroundings MemoryStore) (clean : around.store.staged = []) :
    let (x, after) := s.exchange (MemoryStore.respond 0) now r around
    x.Authorized s ∧ after.store.staged = [] := by
  have handles := handle_handles s now r around.debts
  obtain ⟨hstaged, moves⟩ := handles.moves around.store clean
  obtain ⟨locks, hexchange⟩ := exchange_eq s (MemoryStore.respond 0) now r around
  rw [hexchange]
  refine ⟨⟨fun call hcall hne => ?_, fun plain _ _ _ => moves.credits plain,
    fun plain submits _ _ _ => moves.withdrawals plain submits⟩, hstaged⟩
  obtain ⟨made, hmade, rfl⟩ := List.mem_map.mp hcall
  rcases handles.permitted with only | permitted
  · have hprobe := only_calls_of_transcript only _ _ made hmade
    exact absurd (Ask.call.inj hprobe) hne
  · exact permitted

/-- **Nothing happens that a user may not do**, whatever requests come in, over any catalog and
whichever calls its store refuses. -/
theorem session_authorized (s : Service) (requests : List (Timestamp × Request))
    (around : Surroundings MemoryStore) (clean : around.store.staged = [])
    {x : Exchange MemoryStore} (hx : x ∈ s.session (MemoryStore.respond 0) requests around) :
    x.Authorized s := by
  induction requests generalizing around with
  | nil => exact absurd hx List.not_mem_nil
  | cons request requests ih =>
    obtain ⟨hauthorized, hnext⟩ := exchange_authorized s request.1 request.2 around clean
    rcases List.mem_cons.mp hx with rfl | hx
    · exact hauthorized
    · exact ih _ hnext hx

/-- A service whose tokens are signed under the secret "s". -/
def smallService : Service where
  origins := .any
  bodyLimit := 1000
  rateLimit := none
  secret := some "s"
  maxPerPage := 10
  persistent := false
  emptyNames := true

/-- A user who may modify submits a fingerprint. -/
def ownSubmission : Request where
  method := "POST"
  target := "/fingerprints/submit"
  authorization := some ("Bearer " ++ modifierToken)
  contentType := some "application/json"
  body := "[\"00000000000000000000000000000000\",\"OSHASH\",\"00ff00ff00ff00ff\",10]"

theorem session_authorized_submission :
    ∃ x ∈ smallService.session (MemoryStore.respond 0) [(⟨0, 0⟩, ownSubmission)]
        ⟨[], ∅, .of ∅ true⟩,
      smallService.endpoint? x.request = some .submit ∧
        x.request.Shows smallService.secret x.now ⟨.ofNat 1, [.modify]⟩ ∧
        x.Authorized smallService := by
  -- said of any service, lest the whole exchange be computed just to name it
  have hfirst : ∀ (s : Service) now r (around : Surroundings MemoryStore),
      ∃ x ∈ s.session (MemoryStore.respond 0) [(now, r)] around, x.now = now ∧ x.request = r :=
    fun _ _ _ _ => ⟨_, List.mem_cons_self, rfl, rfl⟩
  obtain ⟨x, hx, hnow, hrequest⟩ := hfirst smallService ⟨0, 0⟩ ownSubmission ⟨[], ∅, .of ∅ true⟩
  refine ⟨x, hx, ?_, ?_, session_authorized smallService _ _ rfl hx⟩
  · rw [hrequest]
    decide +kernel
  · rw [hrequest, hnow]
    exact ⟨"s", modifierToken, rfl, rfl, modifierToken_counts⟩

end Api
end SceneCatalog
