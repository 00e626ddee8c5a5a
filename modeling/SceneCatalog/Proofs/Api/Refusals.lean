import SceneCatalog.Proofs.Api.Authorization
import SceneCatalog.Proofs.Api.Layers

/-!
How the service says no. Main statement: whatever the store answers, a call of the service that a
request makes and the layers in front let through is either answered as it wished, or reports an
error with a text for clients and a code for programs; the one exception is a call about a scene
that the path does not name, which gets a plain text once the user has been told.
-/
namespace SceneCatalog.Api

/-- An error as it is reported: an object with a text under `error` and another under `code`. -/
def Response.Reports (response : Response) : Prop :=
  ∃ members error code, response.content = .json (.object members) ∧
    members.lookup "error" = some (.string error) ∧ members.lookup "code" = some (.string code)

/-- What a response means to a caller: it is a success or reports an error. -/
def Response.Speaks (response : Response) : Prop := response.isSuccess = true ∨ response.Reports

theorem Error.toResponse_reports (e : Error) : e.toResponse.Reports :=
  ⟨_, e.clientMessage, e.code, rfl, rfl, rfl⟩

/-- The layers in front let a request through: its declared size is within the limit, and there is
no rate limit, or it lets the sender make a call. -/
def Service.Admits (s : Service) (now : Timestamp) (r : Request) (debts : RateLimit.Debts) : Prop :=
  (∀ size, r.contentLength = some size → size ≤ s.bodyLimit) ∧
    ∀ limit, s.rateLimit = some limit →
      ∃ peer, r.peer = some peer ∧ (limit.take now.toNanos peer debts).1 = true

section Handled

variable {σ : Type} {s : Service} {now : Timestamp} {r : Request} {endpoint : Endpoint}
  {work : Answering} {debts : RateLimit.Debts}

/-! ## A call that gets through -/

/-- A call that the layers in front let through is served, and its response goes out as it is but
for the header about origins. -/
theorem handle_of_admits (asks : s.endpoint? r = some endpoint) (bodied : r.method ≠ "HEAD")
    (admits : s.Admits now r debts) :
    (s.handle now r debts).1 = (s.serve now r endpoint).bind fun response =>
      .done { response with allowOrigin := s.origins.allow r.origin } := by
  obtain ⟨size, rate⟩ := admits
  have hsend : ∀ response, s.send r response = response := fun response => by
    simp [Service.send, bodied]
  have undeclared : ¬ s.Declares r := fun ⟨n, hlength, hsize⟩ =>
    absurd (size n hlength) (Nat.not_le.mpr hsize)
  rw [handle_of_letsThrough rate, answer_of_asks asks undeclared]
  simp only [hsend, Dialogue.bind_done]

theorem response_of_admits (respond : (call : StoreCall) → σ → call.Reply × σ)
    (around : Surroundings σ) (asks : s.endpoint? r = some endpoint) (bodied : r.method ≠ "HEAD")
    (admits : s.Admits now r around.debts) :
    (s.exchange respond now r around).1.response =
      { (Running.transcript respond (s.serve now r endpoint) around.store).result with
        allowOrigin := s.origins.allow r.origin } := by
  obtain ⟨locks, hexchange⟩ := exchange_eq s respond now r around
  rw [hexchange, handle_of_admits asks bodied admits, transcript_bind]
  rfl

/-! ## What it is answered -/

theorem serve_of_unplaced (h : Unplaced s now r endpoint) :
    s.serve now r endpoint = .done Service.noScene := by
  obtain ⟨⟨actor, shown⟩, part, about, unnamed⟩ := h
  cases endpoint with
  | showScene part' =>
    cases about
    simp only [Service.serve, Service.withActor, shown, Service.withScene, unnamed]
  | reconcile part' =>
    cases about
    simp only [Service.serve, Service.withActor, shown, Service.withScene, unnamed]
  | _ => cases about

theorem Responds.speaks {response : Response} (h : Responds s now r endpoint response)
    (asked : endpoint ≠ .ready) (placed : ¬ Unplaced s now r endpoint) : response.Speaks := by
  cases h with
  | refused e => exact Or.inr e.toResponse_reports
  | unplaced h => exact absurd h placed
  | granted => exact Or.inl rfl
  | unwell => exact absurd rfl asked

end Handled

/-- **How the service says no.** A call that the layers in front let through is answered by a plain
text if its user has been told and the path names no scene where it should; in all other cases a
response that is no success reports an error. This does not depend on whether the router takes an
empty name for one: if it does not, there is no call. -/
theorem refusals_reported {σ : Type} (s : Service)
    (respond : (call : StoreCall) → σ → call.Reply × σ) (now : Timestamp) (r : Request)
    (around : Surroundings σ) (endpoint : Endpoint) (asks : s.endpoint? r = some endpoint)
    (calls : endpoint ≠ .health ∧ endpoint ≠ .ready) (bodied : r.method ≠ "HEAD")
    (admits : s.Admits now r around.debts) :
    let response := (s.exchange respond now r around).1.response
    (Unplaced s now r endpoint →
        response.status = 400 ∧ ∃ text, response.content = .text text) ∧
      (¬ Unplaced s now r endpoint → response.isSuccess = false → response.Reports) := by
  dsimp only
  rw [response_of_admits respond around asks bodied admits]
  refine ⟨fun unplaced => ?_, fun placed failed => ?_⟩
  · rw [serve_of_unplaced unplaced]
    exact ⟨rfl, _, rfl⟩
  · have served := (serve_serves s now r endpoint).responds respond around.store
    rcases served.speaks calls.2 placed with ok | reports
    · exact absurd ok (Bool.eq_false_iff.mp failed)
    · exact reports

/-- A request to see the fingerprints of what is no scene. -/
def strayRequest (authorization : Option String) : Request where
  method := "GET"
  target := "/scenes/nope/fingerprints"
  authorization := authorization

theorem strayRequest_asks (authorization : Option String) :
    smallService.endpoint? (strayRequest authorization) = some (.showScene "nope") := by
  have same : smallService.endpoint? (strayRequest authorization) =
      smallService.endpoint? (strayRequest none) := Service.endpoint?_congr rfl rfl
  rw [same]
  decide +kernel

theorem strayRequest_admitted (authorization : Option String) :
    smallService.Admits ⟨0, 0⟩ (strayRequest authorization) [] := ⟨nofun, nofun⟩

/-- With a token, it is answered by a plain text. -/
theorem strayRequest_unreported :
    let r := strayRequest (some ("Bearer " ++ modifierToken))
    let response := (smallService.exchange (MemoryStore.respond 0) ⟨0, 0⟩ r
      ⟨[], ∅, .of ∅ false⟩).1.response
    smallService.endpoint? r = some (.showScene "nope") ∧ r.method ≠ "HEAD" ∧
      smallService.Admits ⟨0, 0⟩ r [] ∧ response.isSuccess = false ∧ ¬ response.Reports := by
  intro r response
  have shown : r.actor smallService.secret ⟨0, 0⟩ = .ok ⟨.ofNat 1, [.modify]⟩ :=
    Request.actor_eq_ok_iff.mpr ⟨"s", modifierToken, rfl, rfl, modifierToken_counts⟩
  have unplaced : Unplaced smallService ⟨0, 0⟩ r (.showScene "nope") :=
    ⟨⟨_, shown⟩, "nope", rfl, by decide +kernel⟩
  have hresponse : response = _ := response_of_admits (MemoryStore.respond 0) ⟨[], ∅, .of ∅ false⟩
    (strayRequest_asks _) (by decide) (strayRequest_admitted _)
  rw [serve_of_unplaced unplaced] at hresponse
  refine ⟨strayRequest_asks _, by decide, strayRequest_admitted _, ?_, ?_⟩
  · rw [hresponse]
    rfl
  · rw [hresponse]
    rintro ⟨members, error, code, hcontent, -⟩
    cases hcontent

/-- Without a token, the error is reported. -/
theorem refusals_reported_stray :
    let r := strayRequest none
    let response := (smallService.exchange (MemoryStore.respond 0) ⟨0, 0⟩ r
      ⟨[], ∅, .of ∅ false⟩).1.response
    smallService.endpoint? r = some (.showScene "nope") ∧ r.method ≠ "HEAD" ∧
      smallService.Admits ⟨0, 0⟩ r [] ∧ response.isSuccess = false ∧ response.Reports := by
  intro r response
  have asks : smallService.endpoint? r = some (.showScene "nope") := strayRequest_asks none
  have admits : smallService.Admits ⟨0, 0⟩ r [] := strayRequest_admitted none
  have bodied : r.method ≠ "HEAD" := by decide
  have failed : response.isSuccess = false := by decide +kernel
  have placed : ¬ Unplaced smallService ⟨0, 0⟩ r (.showScene "nope") := by
    rintro ⟨⟨actor, shown⟩, -⟩
    cases shown
  obtain ⟨-, reports⟩ := refusals_reported smallService (MemoryStore.respond 0) ⟨0, 0⟩ r
    ⟨[], ∅, .of ∅ false⟩ (.showScene "nope") asks ⟨nofun, nofun⟩ bodied admits
  exact ⟨asks, bodied, admits, failed, reports placed failed⟩

end SceneCatalog.Api
