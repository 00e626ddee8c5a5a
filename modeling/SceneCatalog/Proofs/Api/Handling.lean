import Mathlib.Data.List.Forall2
import SceneCatalog.Api.Session
import SceneCatalog.Proofs.Consensus.Accord
import SceneCatalog.Proofs.Consensus.History

/-!
What a service can do about a request, said once. Whatever is asked, the response is settled
without the catalog, or the health of the store is looked at, or a user who has shown a token works
on the catalog: with one change in the user's own name, or with one look-up.
-/
namespace SceneCatalog.Api

/-! ## Work and its answers -/

/-- The reply to a change as a user sees it. -/
def viewReply (viewer : Uuid) (scene : Uuid) : ChangeReply → Json
  | .submitted reply => viewSubmitted viewer reply
  | .retracted reply => viewRetracted viewer reply
  | .reconciled reply => viewReconciled viewer scene reply

/-- The response that work on the catalog comes to: a view of the result, or the error. -/
def responseTo {α : Type} (view : α → Json) : Except CatalogError α → Response
  | .ok a => .json 200 (view a)
  | .error e => (Error.catalog e).toResponse

/-- Works on the catalog and answers with what comes of it. -/
def answering {α : Type} (view : α → Json) (work : Work α) : Answering :=
  Dialogue.bind work fun result => .done (responseTo view result)

/-- Answering with what comes of work is all that is done after it. -/
theorem answering_transcript {σ α : Type} (respond : (call : StoreCall) → σ → call.Reply × σ)
    (view : α → Json) (work : Work α) (state : σ) :
    let t := Running.transcript respond work state
    Running.transcript respond (answering view work) state =
      ⟨responseTo view t.result, t.state, t.asked⟩ := by
  unfold answering
  rw [transcript_bind]
  simp only [Running.transcript, List.append_nil]

/-- What an answer says of work depends on no more than what belongs together in its result: of the
failures of a store, nothing but that there was one. -/
theorem answering_resembles {α β : Type} {L : Likeness StoreCall StoreCall.Reply}
    {errors : StoreError → StoreError → Prop} {values : α → β → Prop} {view : α → Json}
    {view' : β → Json} {work : Work α} {work' : Work β}
    (h : Running.Resembles L (Concur (CatalogError.Accord errors) values) work work')
    (views : ∀ a b, values a b → view a = view' b) :
    Running.Resembles L Eq (answering view work) (answering view' work') := by
  refine h.bind fun result result' hresult => .done ?_
  cases hresult with
  | ok hvalues => exact congrArg (Response.json 200) (views _ _ hvalues)
  | error herrors =>
    cases herrors with
    | same e => rfl
    | store h => rfl

/-- The same goes for what is said of the health of a store. -/
theorem readiness_resembles {L : Likeness StoreCall StoreCall.Reply}
    {errors : StoreError → StoreError → Prop} {stored : List Record → List Record → Prop}
    (accords : L.Accords errors stored) :
    Running.Resembles L Eq Service.readiness Service.readiness := by
  have asks : L.calls .checkHealth .checkHealth := accords.reads rfl
  refine .call asks fun x x' hx => ?_
  cases accords.replies asks hx with
  | error h => exact .done rfl
  | ok h => exact .done rfl

section Actions

variable {α β : Type} (actor : Actor) (role : Role)

theorem permit_bind (next : Unit → Action α) :
    Action.permit actor role >>= next =
      if actor.has role then next ()
      else throw (.forbidden s!"{role.name} role required") := by
  unfold Action.permit require
  split <;> rfl

theorem toResponse_perform (work : Work α) (view : α → Json) :
    (do return view (← Action.perform work) : Action Json).toResponse = answering view work := by
  -- work is a dialogue in disguise, and the induction is on the dialogue
  have h : ∀ d : Running StoreCall StoreCall.Reply (Except CatalogError α),
      (do return view (← Action.perform d) : Action Json).toResponse = answering view d := by
    intro d
    induction d with
    | done result => cases result <;> rfl
    | ask q next ih => exact congrArg (Dialogue.ask q) (funext ih)
  exact h work

/-- The view of a reply may be taken apart from the change that it is a reply to. -/
theorem answering_map (f : α → β) (view : β → Json) (work : Work α) :
    answering view (f <$> work) = answering (fun a => view (f a)) work := by
  have h : ∀ d : Running StoreCall StoreCall.Reply (Except CatalogError α),
      answering view (f <$> (d : Work α)) = answering (fun a => view (f a)) d := by
    intro d
    induction d with
    | done result => cases result <;> rfl
    | ask q next ih => exact congrArg (Dialogue.ask q) (funext ih)
  exact h work

end Actions

/-! ## Endpoints -/

/-- The role that a user needs for a call of the service, `none` where no user is asked for. -/
def Endpoint.role? : Endpoint → Option Role
  | .submit | .reconcile _ => some .modify
  | .lookup | .showScene _ | .query => some .read
  | .health | .ready => none

/-- The call of the service that a request makes. -/
def Service.endpoint? (s : Service) (r : Request) : Option Endpoint :=
  (Route.ofPath? s.emptyNames r.path).bind fun route => route.endpoint? r.method

/-- The changes that a call of the service can make. -/
def Endpoint.Makes : Endpoint → Change → Prop
  | .submit, .submit _ | .submit, .retract _ | .reconcile _, .reconcile _ => True
  | _, _ => False

/-- The part of a path that is to name a scene. -/
def Endpoint.part? : Endpoint → Option String
  | .showScene part | .reconcile part => some part
  | _ => none

/-- A request whose user has been told is about a scene, but its path names none. -/
def Unplaced (s : Service) (now : Timestamp) (r : Request) (endpoint : Endpoint) : Prop :=
  (∃ actor, r.actor s.secret now = .ok actor) ∧
    ∃ part, endpoint.part? = some part ∧ (Text.percentDecode? part).bind Uuid.parse? = none

/-- The calls of the service that take a body. -/
def Endpoint.takesBody : Endpoint → Bool
  | .submit | .lookup | .reconcile _ | .query => true
  | .showScene _ | .health | .ready => false

/-- The service comes to read the body of a request: the call takes one, the user has been told and
so has the scene where the path is to name one, and the body is declared as JSON. -/
structure ReadsBody (s : Service) (now : Timestamp) (r : Request) (endpoint : Endpoint) : Prop where
  takes : endpoint.takesBody = true
  shown : ∃ actor, r.actor s.secret now = .ok actor
  placed : ∀ part, endpoint.part? = some part →
    ∃ scene, (Text.percentDecode? part).bind Uuid.parse? = some scene
  declared : r.contentType.any declaresJson = true

/-- The service comes to read a body that is longer than what it takes of one. -/
def Overfull (s : Service) (now : Timestamp) (r : Request) (endpoint : Endpoint) : Prop :=
  ReadsBody s now r endpoint ∧ min s.bodyLimit jsonBodyLimit < r.body.utf8ByteSize

/-- The responses that are settled without the catalog. That a body is too long to be read is said
of no other. -/
inductive Settles (s : Service) (now : Timestamp) (r : Request) : Endpoint → Response → Prop
  | refused {endpoint : Endpoint} (e : Error)
      (size : e = .badRequest BodyFault.tooLong.message → Overfull s now r endpoint) :
      Settles s now r endpoint e.toResponse
  | unplaced {endpoint : Endpoint} (h : Unplaced s now r endpoint) :
      Settles s now r endpoint Service.noScene
  | healthy : Settles s now r .health (.json 200 s.healthReport)

/-- The body of a request to submit or to reconcile states a duration. One to withdraw does not,
whatever it holds. -/
inductive States (s : Service) (r : Request) (duration : UInt32) : Endpoint → Prop
  | submit {body : SubmitRequest}
      (decoded : r.decodeBody s.bodyLimit SubmitRequest.ofDraft = .ok body)
      (submits : body.unmatch = false) (stated : body.duration = some duration) :
      States s r duration .submit
  | reconcile {part : String} {body : ReconcileRequest} {entry : EditRequest}
      (decoded : r.decodeBody s.bodyLimit ReconcileRequest.ofDraft = .ok body)
      (mem : entry ∈ body.fingerprints) (stated : entry.duration = duration) :
      States s r duration (.reconcile part)

/-- What a service can do for a request that makes one of its calls. -/
inductive Serves (s : Service) (now : Timestamp) (r : Request) : Endpoint → Answering → Prop
  /-- The response is settled without the catalog. -/
  | settled {endpoint : Endpoint} (response : Response)
      (settles : Settles s now r endpoint response) : Serves s now r endpoint (.done response)
  | probe : Serves s now r .ready Service.readiness
  /-- A user who may modify makes a change, and names users only as an administrator. The durations
  that the change states are those of the request. -/
  | change {endpoint : Endpoint} {actor : Actor} (change : Change)
      (shown : r.actor s.secret now = .ok actor) (role : actor.has .modify = true)
      (makes : endpoint.Makes change) (acting : change.acting = actor.user)
      (named : change.namesUsers = true → actor.has .admin = true)
      (states : ∀ f duration, change.stated? f = some duration → States s r duration endpoint) :
      Serves s now r endpoint (answering (viewReply actor.user change.scene) (change.run now))
  | fingerprints {actor : Actor} (shown : r.actor s.secret now = .ok actor)
      (role : actor.has .read = true) (wanted : List Fingerprint) :
      Serves s now r .lookup (answering (viewMatches actor.user) (findByFingerprints wanted))
  | hashes {actor : Actor} (shown : r.actor s.secret now = .ok actor)
      (role : actor.has .read = true) (wanted : List String) :
      Serves s now r .lookup (answering (viewMatches actor.user) (findByHashes wanted))
  | scene {part : String} {actor : Actor} (shown : r.actor s.secret now = .ok actor)
      (role : actor.has .read = true) (scene : Uuid) :
      Serves s now r (.showScene part) (answering (viewScene actor.user scene) (sceneRecords scene))
  | query {actor : Actor} (shown : r.actor s.secret now = .ok actor)
      (role : actor.has .read = true) (filter : Filter) (spec : PageSpec) :
      Serves s now r .query (answering viewPage (queryScenes filter spec s.maxPerPage))

section Serving

variable {s : Service} {now : Timestamp} {r : Request} {endpoint : Endpoint} {actor : Actor}

/-! ## Rules for the steps of a handler -/

/-- A body is too long just if it would be read and is longer than what is taken of one. -/
theorem Request.decodeBody_eq_tooLong_iff {α : Type} {limit : Nat}
    {decode : Json.Draft → Except Json.Fault α} :
    r.decodeBody limit decode = .error .tooLong ↔
      r.contentType.any declaresJson = true ∧ min limit jsonBodyLimit < r.body.utf8ByteSize := by
  unfold Request.decodeBody
  split
  · rename_i undeclared
    simp_all
  · rename_i declared
    split
    · rename_i long
      simp_all
    · rename_i short
      cases (Json.read r.body).decode decode <;> simp_all [Except.mapError]

/-- No other fault of a body has its wording. -/
theorem BodyFault.message_eq_tooLong {fault : BodyFault}
    (h : fault.message = BodyFault.tooLong.message) : fault = .tooLong := by
  cases fault with
  | tooLong => rfl
  | notDeclaredJson => exact absurd h (by decide)
  | undecodable fault => cases fault <;> exact absurd h (by decide)

theorem Request.actor_ne_badRequest {secret : Option String} {text : String} :
    r.actor secret now ≠ .error (.badRequest text) := by
  unfold Request.actor
  split
  · nofun
  · split
    · nofun
    · cases Token.check _ now _ <;> nofun

theorem Serves.permit {role : Role} {next : Unit → Action Json}
    (h : actor.has role = true → Serves s now r endpoint (next ()).toResponse) :
    Serves s now r endpoint (Action.permit actor role >>= next).toResponse := by
  rw [permit_bind]
  split
  · rename_i hrole
    exact h hrole
  · exact .settled _ (.refused _ nofun)

theorem Serves.permitIf {p : Prop} [Decidable p] {role : Role} {next : Action Json}
    (h : (p → actor.has role = true) → Serves s now r endpoint next.toResponse) :
    Serves s now r endpoint
      (if p then (do Action.permit actor role; next) else next : Action Json).toResponse := by
  by_cases hp : p
  · rw [if_pos hp]
    exact .permit fun hrole => h fun _ => hrole
  · rw [if_neg hp]
    exact h fun hp' => absurd hp' hp

theorem Serves.check {α : Type} {result : Except CatalogError α} {next : α → Action Json}
    (h : ∀ a, result = .ok a → Serves s now r endpoint (next a).toResponse) :
    Serves s now r endpoint (Action.check result >>= next).toResponse := by
  cases result with
  | error e => exact .settled _ (.refused _ nofun)
  | ok a => exact h a rfl

/-- A request may be refused in words of its own. -/
theorem Serves.badRequest {text : String} (h : text ≠ BodyFault.tooLong.message) :
    Serves s now r endpoint (.done (Error.badRequest text).toResponse) :=
  .settled _ (.refused _ fun he => absurd (Error.badRequest.inj he) h)

theorem Serves.withActor {next : Actor → Answering}
    (h : ∀ actor, r.actor s.secret now = .ok actor → Serves s now r endpoint (next actor)) :
    Serves s now r endpoint (s.withActor now r next) := by
  unfold Service.withActor
  split
  · rename_i e unshown
    refine .settled _ (.refused _ fun he => ?_)
    rw [he] at unshown
    exact absurd unshown Request.actor_ne_badRequest
  · rename_i actor shown
    exact h actor shown

theorem Serves.withScene {part : String} {next : Uuid → Answering}
    (shown : r.actor s.secret now = .ok actor) (about : endpoint.part? = some part)
    (h : ∀ scene, (Text.percentDecode? part).bind Uuid.parse? = some scene →
      Serves s now r endpoint (next scene)) :
    Serves s now r endpoint (Service.withScene part next) := by
  unfold Service.withScene
  split
  · rename_i unnamed
    exact .settled _ (.unplaced ⟨⟨actor, shown⟩, part, about, unnamed⟩)
  · rename_i scene named
    exact h scene named

theorem Serves.withBody {α : Type} {decode : Json.Draft → Except Json.Fault α}
    {next : α → Answering} (takes : endpoint.takesBody = true)
    (shown : r.actor s.secret now = .ok actor)
    (placed : ∀ part, endpoint.part? = some part →
      ∃ scene, (Text.percentDecode? part).bind Uuid.parse? = some scene)
    (h : ∀ a, r.decodeBody s.bodyLimit decode = .ok a → Serves s now r endpoint (next a)) :
    Serves s now r endpoint (s.withBody r decode next) := by
  unfold Service.withBody
  split
  · rename_i fault refused
    refine .settled _ (.refused _ fun he => ?_)
    obtain rfl := BodyFault.message_eq_tooLong (Error.badRequest.inj he)
    obtain ⟨declared, long⟩ := Request.decodeBody_eq_tooLong_iff.mp refused
    exact ⟨⟨takes, ⟨actor, shown⟩, placed, declared⟩, long⟩
  · rename_i a decoded
    exact h a decoded

/-! ## Handlers -/

theorem submit_serves (shown : r.actor s.secret now = .ok actor) {request : SubmitRequest}
    (decoded : r.decodeBody s.bodyLimit SubmitRequest.ofDraft = .ok request) :
    Serves s now r .submit (submit now actor request).toResponse := by
  refine .permit fun hmodify => .permitIf fun hnamed => .check fun fingerprint _ => ?_
  -- the request asks for a withdrawal, or for a submission, which needs a duration
  split
  · rw [toResponse_perform]
    let retraction : Retraction := ⟨request.scene, fingerprint, actor.user, request.users⟩
    have hview : answering (viewReply actor.user request.scene)
        ((Change.retract retraction).run now) =
          answering (viewRetracted actor.user) (retraction.run now) := answering_map _ _ _
    rw [← hview]
    exact .change (.retract retraction) shown hmodify trivial rfl hnamed nofun
  · rename_i submits
    split
    · exact .badRequest (by decide)
    · rename_i duration stated
      rw [toResponse_perform]
      let submission : Submission :=
        ⟨request.scene, ⟨fingerprint, duration⟩, actor.user, request.users⟩
      have hview : answering (viewReply actor.user request.scene)
          ((Change.submit submission).run now) =
            answering (viewSubmitted actor.user) (submission.run now) := answering_map _ _ _
      rw [← hview]
      refine .change (.submit submission) shown hmodify trivial rfl hnamed fun f d hd => ?_
      obtain ⟨-, hd⟩ := Option.ite_none_right_eq_some.mp hd
      exact .submit decoded (Bool.eq_false_iff.mpr submits) (stated.trans hd)

theorem lookup_serves (shown : r.actor s.secret now = .ok actor) (request : LookupRequest) :
    Serves s now r .lookup (lookup actor request).toResponse := by
  refine .permit fun hread => ?_
  dsimp only
  split
  · exact .badRequest (by decide)
  · exact .badRequest (by decide)
  · split
    · exact .badRequest (by decide)
    · refine .check fun wanted _ => ?_
      rw [toResponse_perform]
      exact .fingerprints shown hread wanted
  · split
    · exact .badRequest (by decide)
    · rw [toResponse_perform]
      exact .hashes shown hread _

theorem showScene_serves (shown : r.actor s.secret now = .ok actor) (part : String) (scene : Uuid) :
    Serves s now r (.showScene part) (showScene actor scene).toResponse := by
  refine .permit fun hread => ?_
  rw [toResponse_perform]
  exact .scene shown hread scene

/-- What is wished for is what is read of some entry, with its duration and its users. -/
theorem exists_of_toEdit {entries : List EditRequest} {desired : List Edit}
    (h : entries.mapM EditRequest.toEdit = .ok desired) :
    ∀ edit ∈ desired, ∃ entry ∈ entries,
      edit.claimed.duration = entry.duration ∧ edit.users = entry.users := by
  induction entries generalizing desired with
  | nil =>
    cases h
    exact nofun
  | cons entry entries ih =>
    rw [List.mapM_cons] at h
    obtain ⟨edit, hedit, h⟩ := of_bind_ok h
    obtain ⟨edits, hedits, h⟩ := of_bind_ok h
    obtain ⟨fingerprint, -, rfl⟩ := of_map_ok hedit
    cases h
    refine List.forall_mem_cons.mpr ⟨⟨entry, List.mem_cons_self, rfl, rfl⟩, fun other hother => ?_⟩
    obtain ⟨found, hfound, hsame⟩ := ih hedits other hother
    exact ⟨found, List.mem_cons_of_mem _ hfound, hsame⟩

theorem reconcile_serves (shown : r.actor s.secret now = .ok actor) (part : String) (scene : Uuid)
    {request : ReconcileRequest}
    (decoded : r.decodeBody s.bodyLimit ReconcileRequest.ofDraft = .ok request) :
    Serves s now r (.reconcile part) (reconcile now actor scene request).toResponse := by
  refine .permit fun hmodify => .permitIf fun hnamed => .check fun desired hdesired => ?_
  rw [toResponse_perform]
  let reconciliation : Reconciliation := ⟨scene, desired, actor.user⟩
  have hview : answering (viewReply actor.user scene)
      ((Change.reconcile reconciliation).run now) =
        answering (viewReconciled actor.user scene) (reconciliation.run now) := answering_map _ _ _
  rw [← hview]
  have read := exists_of_toEdit hdesired
  refine .change (.reconcile reconciliation) shown hmodify trivial rfl (fun h => hnamed ?_)
    fun f duration hstated => ?_
  · obtain ⟨edit, hedit, husers⟩ := List.any_eq_true.mp h
    obtain ⟨entry, hentry, -, hsame⟩ := read edit hedit
    exact List.any_eq_true.mpr ⟨entry, hentry, hsame ▸ husers⟩
  · obtain ⟨edit, hfind, rfl⟩ := Option.map_eq_some_iff.mp hstated
    obtain ⟨entry, hentry, hsame, -⟩ := read edit (List.mem_of_find?_eq_some hfind)
    exact .reconcile decoded hentry hsame.symm

theorem queryPage_serves (shown : r.actor s.secret now = .ok actor) (request : QueryRequest) :
    Serves s now r .query (queryPage s.maxPerPage actor request).toResponse := by
  refine .permit fun hread => ?_
  rw [toResponse_perform]
  exact .query shown hread request.filter request.spec

/-- **What a service can do.** -/
theorem serve_serves (s : Service) (now : Timestamp) (r : Request) (endpoint : Endpoint) :
    Serves s now r endpoint (s.serve now r endpoint) := by
  cases endpoint with
  | submit =>
    exact .withActor fun _ shown => .withBody rfl shown nofun fun _ decoded =>
      submit_serves shown decoded
  | lookup =>
    exact .withActor fun _ shown => .withBody rfl shown nofun fun request _ =>
      lookup_serves shown request
  | showScene part =>
    exact .withActor fun _ shown => .withScene shown rfl fun scene _ =>
      showScene_serves shown part scene
  | reconcile part =>
    refine .withActor fun _ shown => .withScene shown rfl fun scene named => ?_
    have placed : ∀ part', (Endpoint.reconcile part).part? = some part' →
        ∃ scene, (Text.percentDecode? part').bind Uuid.parse? = some scene := by
      rintro _ ⟨⟩
      exact ⟨scene, named⟩
    exact .withBody rfl shown placed fun _ decoded => reconcile_serves shown part scene decoded
  | query =>
    exact .withActor fun _ shown => .withBody rfl shown nofun fun request _ =>
      queryPage_serves shown request
  | health => exact .settled _ .healthy
  | ready => exact .probe

/-! ## Requests -/

/-- What a service can do about a request: what it can do for the call that the request makes, or
nothing at all. `finish` is what becomes of a response on its way out, which keeps its status. -/
inductive Handles (s : Service) (now : Timestamp) (r : Request) : Answering → Prop
  | settled (response : Response) : Handles s now r (.done response)
  | served {endpoint : Endpoint} {work : Answering} (asks : s.endpoint? r = some endpoint)
      (serves : Serves s now r endpoint work) (finish : Response → Response)
      (status : ∀ response, (finish response).status = response.status) :
      Handles s now r (work.bind fun response => .done (finish response))

theorem Handles.finish {work : Answering} (h : Handles s now r work)
    (change : Response → Response) (same : ∀ response, (change response).status = response.status) :
    Handles s now r (work.bind fun response => .done (change response)) := by
  cases h with
  | settled response => exact .settled (change response)
  | served asks serves finish status =>
    rw [Dialogue.bind_assoc]
    exact .served asks serves (fun response => change (finish response)) fun response =>
      (same _).trans (status response)

theorem route_handles (s : Service) (now : Timestamp) (r : Request) :
    Handles s now r (s.route now r) := by
  unfold Service.route
  split
  · exact .settled _
  · rename_i route hroute
    split
    · exact .settled _
    · rename_i endpoint hendpoint
      have asks : s.endpoint? r = some endpoint := by
        simp [Service.endpoint?, hroute, hendpoint]
      have h := Handles.served asks (serve_serves s now r endpoint) id fun _ => rfl
      rwa [show (fun response => Dialogue.done (id response)) = Dialogue.done from rfl,
        Dialogue.bind_done] at h

theorem answer_handles (s : Service) (now : Timestamp) (r : Request) :
    Handles s now r (s.answer now r) := by
  unfold Service.answer
  split
  · exact .settled _
  · dsimp only
    split
    · exact .settled _
    · exact (route_handles s now r).finish _ fun _ => rfl

theorem send_status (r : Request) (response : Response) :
    (s.send r response).status = response.status := by
  unfold Service.send
  dsimp only
  split <;> rfl

/-- **What a service can do about a request.** -/
theorem handle_handles (s : Service) (now : Timestamp) (r : Request) (debts : RateLimit.Debts) :
    Handles s now r (s.handle now r debts).1 := by
  unfold Service.handle
  dsimp only
  split
  · exact (answer_handles s now r).finish _ (send_status r)
  · split
    · exact .settled _
    · split
      · exact (answer_handles s now r).finish _ (send_status r)
      · exact .settled _

end Serving

/-! ## Sessions -/

section Sessions

variable {σ τ : Type}

/-- What can be done for a call goes the same way on both sides, so what is done about a request
does. -/
theorem Handles.resembles_of {L : Likeness StoreCall StoreCall.Reply} {s : Service}
    {now : Timestamp} {r : Request} {work : Answering} (h : Handles s now r work)
    (served : ∀ {endpoint work}, Serves s now r endpoint work → Running.Resembles L Eq work work) :
    Running.Resembles L Eq work work := by
  cases h with
  | settled response => exact .done rfl
  | served asks serves finish =>
    exact (served serves).bind fun _ _ h => .done (congrArg finish h)

/-- What happens about a request, apart from the locks: the work that is to be done for it is done,
and its calls are made. -/
theorem exchange_eq (s : Service) (respond : (call : StoreCall) → σ → call.Reply × σ)
    (now : Timestamp) (r : Request) (around : Surroundings σ) :
    let t := Running.transcript respond (s.handle now r around.debts).1 around.store
    ∃ locks, s.exchange respond now r around =
      (⟨now, r, around.store, t.asked.map (·.1), t.result, t.state⟩,
        ⟨(s.handle now r around.debts).2, locks, t.state⟩) := by
  have hran := run_respondAlone respond (s.handle now r around.debts).1 around.locks around.store
  unfold Service.exchange
  generalize s.handle now r around.debts = handled at *
  obtain ⟨work, debts⟩ := handled
  obtain ⟨hresult, hstate, hasked⟩ := hran
  dsimp only at hresult hstate hasked ⊢
  rw [hresult, hstate, hasked]
  exact ⟨_, rfl⟩

variable {L : Likeness StoreCall StoreCall.Reply} {states : σ → τ → Prop}
  {respond : (call : StoreCall) → σ → call.Reply × σ}
  {respond' : (call : StoreCall) → τ → call.Reply × τ} {s : Service}
  {around : Surroundings σ} {around' : Surroundings τ}

/-- What is done about a request is the same work whatever the store holds. Where the work goes the
same way on both stores, so does the exchange. -/
theorem exchange_resembles (served : L.Served respond respond' states) {now : Timestamp} {r : Request}
    (work : ∀ debts, Running.Resembles L Eq (s.handle now r debts).1 (s.handle now r debts).1)
    (debts : around.debts = around'.debts) (alike : states around.store around'.store) :
    let (x, after) := s.exchange respond now r around
    let (x', after') := s.exchange respond' now r around'
    x.response = x'.response ∧ states x.after x'.after ∧ after.debts = after'.debts ∧
      states after.store after'.store := by
  obtain ⟨locks, hexchange⟩ := exchange_eq s respond now r around
  obtain ⟨locks', hexchange'⟩ := exchange_eq s respond' now r around'
  rw [hexchange, hexchange', ← debts]
  obtain ⟨hresponses, hstates⟩ := (work around.debts).transcript served alike
  exact ⟨hresponses, hstates, rfl, hstates⟩

/-- **Two sessions** of the same requests over stores that are alike. -/
theorem session_resembles (served : L.Served respond respond' states)
    {requests : List (Timestamp × Request)}
    (work : ∀ request ∈ requests, ∀ debts, Running.Resembles L Eq
      (s.handle request.1 request.2 debts).1 (s.handle request.1 request.2 debts).1)
    (debts : around.debts = around'.debts) (alike : states around.store around'.store) :
    List.Forall₂ (fun x x' => x.response = x'.response ∧ states x.after x'.after)
      (s.session respond requests around) (s.session respond' requests around') := by
  induction requests generalizing around around' with
  | nil => exact .nil
  | cons request requests ih =>
    obtain ⟨hresponse, hafter, hdebts, hstore⟩ :=
      exchange_resembles served (work request List.mem_cons_self) debts alike
    exact .cons ⟨hresponse, hafter⟩
      (ih (fun request hmem => work request (List.mem_cons_of_mem _ hmem)) hdebts hstore)

end Sessions

end SceneCatalog.Api
