import SceneCatalog.Proofs.Api.Handling

/-!
The layers in front of the routes, and what they say. A request that the rate limit lets through is
refused for its declared size, or answered about what is allowed, or leads nowhere, or is served;
only the first layers speak of the rate of calls, and of a declared size.
-/
namespace SceneCatalog.Api

/-- There is no rate limit, or it lets the sender of a request make a call. -/
def Service.LetsThrough (s : Service) (now : Timestamp) (r : Request) (debts : RateLimit.Debts) :
    Prop :=
  ∀ limit, s.rateLimit = some limit →
    ∃ peer, r.peer = some peer ∧ (limit.take now.toNanos peer debts).1 = true

/-- The declared size of a request is above the limit. -/
def Service.Declares (s : Service) (r : Request) : Prop :=
  ∃ size, r.contentLength = some size ∧ s.bodyLimit < size

section Layers

variable {σ : Type} {s : Service} {now : Timestamp} {r : Request} {endpoint : Endpoint}
  {work : Answering} {debts : RateLimit.Debts}

/-! ## The rate limit -/

/-- A request that the rate limit lets through is answered, and the response goes out as it is but
for a body that is left out. -/
theorem handle_of_letsThrough (through : s.LetsThrough now r debts) :
    (s.handle now r debts).1 =
      (s.answer now r).bind fun response => .done (s.send r response) := by
  unfold Service.handle
  cases hlimit : s.rateLimit with
  | none => rfl
  | some limit =>
    obtain ⟨peer, hpeer, htake⟩ := through limit hlimit
    simp only [hpeer]
    generalize limit.take now.toNanos peer debts = taken at htake
    obtain ⟨_, debts'⟩ := taken
    obtain rfl : _ = true := htake
    rfl

theorem response_of_letsThrough (respond : (call : StoreCall) → σ → call.Reply × σ)
    (around : Surroundings σ) (through : s.LetsThrough now r around.debts) :
    (s.exchange respond now r around).1.response =
      s.send r (Running.transcript respond (s.answer now r) around.store).result := by
  obtain ⟨locks, hexchange⟩ := exchange_eq s respond now r around
  rw [hexchange, handle_of_letsThrough through, transcript_bind]
  rfl

/-! ## Behind the rate limit -/

theorem answer_of_declares (declares : s.Declares r) :
    s.answer now r = .done (.text 413 "length limit exceeded") := by
  obtain ⟨size, hlength, hsize⟩ := declares
  unfold Service.answer
  rw [hlength, Option.any_some, if_pos (decide_eq_true hsize)]

/-- Which call is made does not depend on who makes it. -/
theorem Service.endpoint?_congr {r r' : Request} (target : r.target = r'.target)
    (method : r.method = r'.method) : s.endpoint? r = s.endpoint? r' := by
  rw [Service.endpoint?, Service.endpoint?, Request.path, Request.path, target, method]

/-- No call of the service is made by asking what is allowed. -/
theorem Request.not_options (asks : s.endpoint? r = some endpoint) : r.method ≠ "OPTIONS" := by
  intro hmethod
  obtain ⟨route, -, hcall⟩ := Option.bind_eq_some_iff.mp asks
  rw [hmethod] at hcall
  cases route <;> simp [Route.endpoint?] at hcall

theorem route_of_asks (asks : s.endpoint? r = some endpoint) :
    s.route now r = s.serve now r endpoint := by
  obtain ⟨route, hroute, hcall⟩ := Option.bind_eq_some_iff.mp asks
  simp only [Service.route, hroute, hcall]

theorem Route.ne_empty_of_ofPath? {path scene : String}
    (h : Route.ofPath? false path = some (.sceneFingerprints scene)) : scene ≠ "" := by
  rintro rfl
  unfold Route.ofPath? at h
  split at h <;> simp at h

/-- A call that is about a part of the path was made on the route with that part. -/
theorem Route.eq_of_part? {route : Route} {method part : String}
    (hcall : route.endpoint? method = some endpoint) (hpart : endpoint.part? = some part) :
    route = .sceneFingerprints part := by
  cases route <;> grind [Route.endpoint?, Endpoint.part?]

/-- Where the router takes no empty names, no call is about one. -/
theorem Service.part?_ne_empty (strict : s.emptyNames = false)
    (asks : s.endpoint? r = some endpoint) : endpoint.part? ≠ some "" := by
  intro hpart
  obtain ⟨route, hroute, hcall⟩ := Option.bind_eq_some_iff.mp asks
  rw [strict, Route.eq_of_part? hcall hpart] at hroute
  exact Route.ne_empty_of_ofPath? hroute rfl

theorem not_any_of_not_declares (declares : ¬ s.Declares r) :
    ¬ (r.contentLength.any (s.bodyLimit < ·)) = true := by
  intro h
  cases hlength : r.contentLength with
  | none => simp [hlength] at h
  | some size => exact declares ⟨size, hlength, by simpa [hlength] using h⟩

theorem answer_of_asks (asks : s.endpoint? r = some endpoint) (declares : ¬ s.Declares r) :
    s.answer now r = (s.serve now r endpoint).bind fun response =>
      .done { response with allowOrigin := s.origins.allow r.origin } := by
  unfold Service.answer
  rw [if_neg (not_any_of_not_declares declares), if_neg (Request.not_options asks),
    route_of_asks asks]

/-- What makes no call is settled: it asks what is allowed, or leads nowhere, or has no such
method. -/
theorem answer_of_not_asks (now : Timestamp) (asks : s.endpoint? r = none)
    (declares : ¬ s.Declares r) :
    ∃ response, s.answer now r = .done response ∧ response.content = .empty ∧
      (response.status = 200 ∨ response.status = 404 ∨ response.status = 405) := by
  have hroute : ∃ status, s.route now r = .done (.empty status) ∧ (status = 404 ∨ status = 405) := by
    unfold Service.route
    split
    · exact ⟨404, rfl, Or.inl rfl⟩
    · rename_i route hroute
      have hcall : route.endpoint? r.method = none := by
        simpa [Service.endpoint?, hroute] using asks
      rw [hcall]
      exact ⟨405, rfl, Or.inr rfl⟩
  obtain ⟨status, hroute, hstatus⟩ := hroute
  unfold Service.answer
  rw [if_neg (not_any_of_not_declares declares)]
  dsimp only
  split
  · exact ⟨_, rfl, rfl, Or.inl rfl⟩
  · rw [hroute]
    exact ⟨_, rfl, rfl, Or.inr hstatus⟩

/-! ## What is said to a call -/

/-- The responses to a call of the service: an error, which says of no body that it is too long but
of one that is; a plain text where the path names no scene; what was wished for; and that the
catalog cannot be reached. -/
inductive Responds (s : Service) (now : Timestamp) (r : Request) : Endpoint → Response → Prop
  | refused {endpoint : Endpoint} (e : Error)
      (size : e = .badRequest BodyFault.tooLong.message → Overfull s now r endpoint) :
      Responds s now r endpoint e.toResponse
  | unplaced {endpoint : Endpoint} (h : Unplaced s now r endpoint) :
      Responds s now r endpoint Service.noScene
  | granted {endpoint : Endpoint} (json : Json) : Responds s now r endpoint (.json 200 json)
  | unwell (json : Json) : Responds s now r .ready (.json 503 json)

/-- What work comes to is an error of the catalog, or what was wished for. -/
theorem responds_responseTo {α : Type} (view : α → Json) (result : Except CatalogError α) :
    Responds s now r endpoint (responseTo view result) := by
  cases result with
  | error e => exact .refused (.catalog e) nofun
  | ok a => exact .granted (view a)

theorem Serves.responds (h : Serves s now r endpoint work)
    (respond : (call : StoreCall) → σ → call.Reply × σ) (state : σ) :
    Responds s now r endpoint (Running.transcript respond work state).result := by
  have answered : ∀ {α : Type} (view : α → Json) (work : Work α),
      Responds s now r endpoint
        (Running.transcript respond (answering view work) state).result := by
    intro α view work
    rw [answering_transcript]
    exact responds_responseTo view _
  cases h with
  | settled response settles =>
    cases settles with
    | refused e size => exact .refused e size
    | unplaced h => exact .unplaced h
    | healthy => exact .granted _
  | probe =>
    simp only [Service.readiness, Running.transcript]
    generalize respond .checkHealth state = answer
    obtain ⟨_ | _, state⟩ := answer
    · exact .unwell _
    · exact .granted _
  | change => exact answered _ _
  | fingerprints => exact answered _ _
  | hashes => exact answered _ _
  | scene => exact answered _ _
  | query => exact answered _ _

theorem Error.toResponse_isSuccess (e : Error) : e.toResponse.isSuccess = false := by
  cases e with
  | catalog e => cases e <;> rfl
  | _ => rfl

/-- The statuses of the layers in front: the declared size is too great, or calls come too fast. -/
def Response.InFront (response : Response) : Prop := response.status = 413 ∨ response.status = 429

theorem Error.toResponse_not_inFront (e : Error) : ¬ e.toResponse.InFront := by
  have h : e.status ≠ 413 ∧ e.status ≠ 429 := by
    cases e with
    | catalog e => cases e <;> simp [Error.status]
    | _ => simp [Error.status]
  rintro (h' | h')
  · exact h.1 h'
  · exact h.2 h'

/-- Whatever is said to a call, the statuses of the layers in front are theirs alone. -/
theorem Responds.not_inFront {response : Response} (h : Responds s now r endpoint response) :
    ¬ response.InFront := by
  cases h with
  | refused e => exact e.toResponse_not_inFront
  | unplaced => rintro (h | h) <;> cases h
  | granted => rintro (h | h) <;> cases h
  | unwell => rintro (h | h) <;> cases h

/-- Behind the rate limit, nothing is said of the rate, and nothing of a size but of a declared
one. -/
theorem answer_inFront (respond : (call : StoreCall) → σ → call.Reply × σ) (state : σ) :
    let response := (Running.transcript respond (s.answer now r) state).result
    response.status ≠ 429 ∧ (response.status = 413 → s.Declares r) := by
  dsimp only
  by_cases declares : s.Declares r
  · rw [answer_of_declares declares]
    exact ⟨by simp [Running.transcript, Response.text], fun _ => declares⟩
  · suffices h : ¬ (Running.transcript respond (s.answer now r) state).result.InFront from
      ⟨fun h' => h (Or.inr h'), fun h' => absurd (Or.inl h') h⟩
    cases asks : s.endpoint? r with
    | none =>
      obtain ⟨response, hanswer, -, hstatus⟩ := answer_of_not_asks now asks declares
      rw [hanswer]
      rintro (h | h) <;> simp only [Running.transcript] at h <;> omega
    | some endpoint =>
      rw [answer_of_asks asks declares, transcript_bind]
      exact ((serve_serves s now r endpoint).responds respond state).not_inFront

end Layers

end SceneCatalog.Api
