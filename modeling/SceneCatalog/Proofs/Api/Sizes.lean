import SceneCatalog.Proofs.Api.Authorization
import SceneCatalog.Proofs.Api.Building
import SceneCatalog.Proofs.Api.Layers

/-!
Requests that are refused for their size. Main statement: the service says that a request is too
large if the declared size is above the configured limit, or if it comes to read a body that is
longer than the limit or than two mebibytes; it says so of no other request, and no call succeeds
with such a body.
-/
namespace SceneCatalog

namespace Api

/-- A request is refused for its size: in front of the routes, or where its body is read. -/
def Response.RefusesSize (response : Response) : Prop :=
  response.status = 413 ∨
    (response.status = 400 ∧
      response.content = .json (Error.badRequest BodyFault.tooLong.message).toJson)

/-! ## Telling the refusal from other responses -/

/-- No other error is reported in the same way as one of a request in words of its own. -/
theorem Error.eq_of_toJson_badRequest {e : Error} {text : String}
    (h : e.toJson = (Error.badRequest text).toJson) : e = .badRequest text := by
  obtain ⟨hmessage, hcode⟩ : e.clientMessage = (Error.badRequest text).clientMessage ∧
      e.code = "INVALID_INPUT" := by
    simpa [Error.toJson, Error.code] using h
  cases e with
  | badRequest text' =>
    have h : "Bad request: " ++ text' = "Bad request: " ++ text := hmessage
    exact congrArg Error.badRequest ((String.append_right_inj _).mp h)
  | catalog e => cases e <;> simp [Error.code] at hcode
  | _ => simp [Error.code] at hcode

section Sized

variable {σ : Type} {s : Service} {now : Timestamp} {r : Request} {endpoint : Endpoint}

theorem Error.toResponse_refusesSize {e : Error} (h : e.toResponse.RefusesSize) :
    e = .badRequest BodyFault.tooLong.message := by
  rcases h with h | ⟨-, h⟩
  · exact absurd (Or.inl h) e.toResponse_not_inFront
  · exact Error.eq_of_toJson_badRequest (Content.json.inj h)

/-- What is refused for its size where it is served has a body that is read and is too long. -/
theorem Responds.overfull {response : Response} (h : Responds s now r endpoint response)
    (refuses : response.RefusesSize) : Overfull s now r endpoint := by
  cases h with
  | refused e size => exact size (Error.toResponse_refusesSize refuses)
  | unplaced => rcases refuses with h | ⟨-, h⟩ <;> cases h
  | granted => rcases refuses with h | ⟨h, -⟩ <;> cases h
  | unwell => rcases refuses with h | ⟨h, -⟩ <;> cases h

/-! ## Bodies that are too long -/

/-- A body that is read and is too long is refused. -/
theorem serve_of_overfull (h : Overfull s now r endpoint) :
    s.serve now r endpoint = .done (Error.badRequest BodyFault.tooLong.message).toResponse := by
  obtain ⟨⟨takes, ⟨actor, shown⟩, placed, declared⟩, long⟩ := h
  have tooLong : ∀ {α : Type} (decode : Json.Draft → Except Json.Fault α) (next : α → Answering),
      s.withBody r decode next =
        .done (Error.badRequest BodyFault.tooLong.message).toResponse := by
    intro α decode next
    rw [Service.withBody, Request.decodeBody_eq_tooLong_iff.mpr ⟨declared, long⟩]
  cases endpoint with
  | submit => simp only [Service.serve, Service.withActor, shown, tooLong]
  | lookup => simp only [Service.serve, Service.withActor, shown, tooLong]
  | query => simp only [Service.serve, Service.withActor, shown, tooLong]
  | reconcile part =>
    obtain ⟨scene, named⟩ := placed part rfl
    simp only [Service.serve, Service.withActor, shown, Service.withScene, named, tooLong]
  | _ => cases takes

/-- An answer that is settled and is no success. -/
def Refuses (work : Answering) : Prop :=
  ∃ response, work = .done response ∧ response.isSuccess = false

theorem Refuses.error (e : Error) : Refuses (.done e.toResponse) :=
  ⟨_, rfl, e.toResponse_isSuccess⟩

theorem Refuses.withActor {next : Actor → Answering} (h : ∀ actor, Refuses (next actor)) :
    Refuses (s.withActor now r next) := by
  unfold Service.withActor
  split
  · exact .error _
  · exact h _

theorem Refuses.withScene {part : String} {next : Uuid → Answering}
    (h : ∀ scene, Refuses (next scene)) : Refuses (Service.withScene part next) := by
  unfold Service.withScene
  split
  · exact ⟨_, rfl, rfl⟩
  · exact h _

theorem Refuses.withBody {α : Type} {decode : Json.Draft → Except Json.Fault α}
    {next : α → Answering} (long : min s.bodyLimit jsonBodyLimit < r.body.utf8ByteSize) :
    Refuses (s.withBody r decode next) := by
  unfold Service.withBody
  split
  · exact .error _
  · rename_i a decoded
    unfold Request.decodeBody at decoded
    rw [if_pos long] at decoded
    split at decoded <;> cases decoded

/-- A call that takes a body does not succeed with one that is too long, whether it comes to read it
or not. -/
theorem serve_refuses (now : Timestamp) (takes : endpoint.takesBody = true)
    (long : min s.bodyLimit jsonBodyLimit < r.body.utf8ByteSize) :
    Refuses (s.serve now r endpoint) := by
  cases endpoint with
  | submit => exact .withActor fun _ => .withBody long
  | lookup => exact .withActor fun _ => .withBody long
  | query => exact .withActor fun _ => .withBody long
  | reconcile part => exact .withActor fun _ => .withScene fun _ => .withBody long
  | _ => cases takes

/-! ## On the way out -/

theorem send_refusesSize {response : Response} (h : (s.send r response).RefusesSize) :
    response.RefusesSize := by
  unfold Service.send at h
  dsimp only at h
  split at h
  · rcases h with h | ⟨-, h⟩
    · exact Or.inl h
    · cases h
  · exact h

/-- The calls that take a body have methods that are answered in full. -/
theorem send_of_takesBody (asks : s.endpoint? r = some endpoint) (takes : endpoint.takesBody = true)
    (response : Response) : s.send r response = response := by
  have bodied : r.method ≠ "HEAD" := by
    intro hmethod
    obtain ⟨route, -, hcall⟩ := Option.bind_eq_some_iff.mp asks
    rw [hmethod] at hcall
    cases route <;> simp [Route.endpoint?] at hcall <;> subst hcall <;> cases takes
  simp [Service.send, bodied]

/-- Which requests that are let through are refused for their size. -/
theorem exchange_refusesSize_iff (respond : (call : StoreCall) → σ → call.Reply × σ)
    (around : Surroundings σ) (through : s.LetsThrough now r around.debts) :
    (s.exchange respond now r around).1.response.RefusesSize ↔
      s.Declares r ∨ ∃ endpoint, s.endpoint? r = some endpoint ∧ Overfull s now r endpoint := by
  rw [response_of_letsThrough respond around through]
  constructor
  · intro refuses
    by_cases declares : s.Declares r
    · exact Or.inl declares
    · have refuses := send_refusesSize refuses
      cases asks : s.endpoint? r with
      | none =>
        obtain ⟨response, hanswer, -, hstatus⟩ := answer_of_not_asks now asks declares
        rw [hanswer] at refuses
        simp only [Running.transcript] at refuses
        rcases refuses with h | ⟨h, -⟩ <;> omega
      | some endpoint =>
        rw [answer_of_asks asks declares, transcript_bind] at refuses
        have served := (serve_serves s now r endpoint).responds respond around.store
        exact Or.inr ⟨endpoint, rfl, served.overfull refuses⟩
  · by_cases declares : s.Declares r
    · intro _
      rw [answer_of_declares declares]
      exact Or.inl (send_status r _)
    · rintro (h | ⟨endpoint, asks, overfull⟩)
      · exact absurd h declares
      · rw [answer_of_asks asks declares, serve_of_overfull overfull,
          send_of_takesBody asks overfull.1.takes]
        exact Or.inr ⟨rfl, rfl⟩

theorem exchange_refuses (respond : (call : StoreCall) → σ → call.Reply × σ)
    (around : Surroundings σ) (through : s.LetsThrough now r around.debts)
    (asks : s.endpoint? r = some endpoint) (takes : endpoint.takesBody = true)
    (long : min s.bodyLimit jsonBodyLimit < r.body.utf8ByteSize) :
    (s.exchange respond now r around).1.response.isSuccess = false := by
  rw [response_of_letsThrough respond around through, send_of_takesBody asks takes]
  by_cases declares : s.Declares r
  · rw [answer_of_declares declares]
    rfl
  · obtain ⟨response, hserve, failed⟩ := serve_refuses now takes long
    rw [answer_of_asks asks declares, hserve]
    exact failed

end Sized

/-- **What is too large.** Over a service that is built from a configuration, a request that the rate
limit lets through is refused for its size if its size is declared and is above the configured
limit, or if its body is read and is above the limit or above what is read of any body. With such a
body no call that takes one succeeds. -/
theorem sizes_refused {σ : Type} {config : Config} {persistent emptyNames : Bool} {s : Service}
    (built : Service.ofConfig config persistent emptyNames = .ok s)
    (respond : (call : StoreCall) → σ → call.Reply × σ) (now : Timestamp) (r : Request)
    (around : Surroundings σ) (through : s.LetsThrough now r around.debts) :
    let limit := config.bodyLimitMb.toNat * Config.mebibyte
    let response := (s.exchange respond now r around).1.response
    (response.RefusesSize ↔
        (∃ size, r.contentLength = some size ∧ limit < size) ∨
          ∃ endpoint, s.endpoint? r = some endpoint ∧ ReadsBody s now r endpoint ∧
            min limit jsonBodyLimit < r.body.utf8ByteSize) ∧
      ∀ endpoint, s.endpoint? r = some endpoint → endpoint.takesBody = true →
        min limit jsonBodyLimit < r.body.utf8ByteSize → response.isSuccess = false := by
  intro limit response
  have hlimit : s.bodyLimit = limit := (Service.of_built built).1
  constructor
  · rw [exchange_refusesSize_iff respond around through]
    unfold Service.Declares Overfull
    rw [hlimit]
  · intro endpoint asks takes long
    exact exchange_refuses respond around through asks takes (hlimit ▸ long)

end Api

/-! ## Blanks in front of a text -/

namespace Json

theorem toList_loop_eq (bytes : ByteArray) (i : Nat) (done : List UInt8) :
    ByteArray.toList.loop bytes i done = done.reverse ++ bytes.data.toList.drop i := by
  fun_induction ByteArray.toList.loop bytes i done with
  | case1 i done before ih =>
    have hi : i < bytes.data.toList.length := by simpa using before
    rw [ih, List.drop_eq_getElem_cons hi]
    simp [ByteArray.get!, before]
  | case2 i done behind =>
    have hi : bytes.data.toList.length ≤ i := by simpa using behind
    rw [List.drop_eq_nil_of_le hi, List.append_nil]

/-- A text with blanks in front of it. -/
def padded (blanks : Nat) (text : String) : String :=
  String.ofList (List.replicate blanks ' ') ++ text

/-- Each blank is a byte, -/
theorem utf8ByteSize_padded (blanks : Nat) (text : String) :
    (padded blanks text).utf8ByteSize = blanks + text.utf8ByteSize := by
  unfold padded
  induction blanks with
  | zero => simp
  | succ n ih =>
    have hblank : (String.singleton ' ').utf8ByteSize = 1 := rfl
    rw [List.replicate_succ, String.ofList_cons, String.append_assoc, String.utf8ByteSize_append,
      ih, hblank]
    omega

/-- and is passed over by a reader. -/
theorem read_padded (blanks : Nat) (text : String) : read (padded blanks text) = read text := by
  unfold padded
  induction blanks with
  | zero => simp
  | succ n ih =>
    have hbytes : (String.ofList (List.replicate (n + 1) ' ') ++ text).toUTF8.toList =
        0x20 :: (String.ofList (List.replicate n ' ') ++ text).toUTF8.toList := by
      unfold String.toUTF8 ByteArray.toList
      rw [toList_loop_eq, toList_loop_eq, List.replicate_succ, String.ofList_cons]
      have hblank : " ".toByteArray.data.toList = [0x20] := by decide
      simp [hblank]
    rw [← ih, read, readBytes, tokens, hbytes]
    rfl

end Json

namespace Api

/-! ## A request behind blanks -/

/-- A configuration with a limit of three mebibytes. -/
def roomyConfig : Config := { Config.default with bodyLimitMb := 3, jwtSecret := some "s" }

def roomyService : Service where
  origins := .any
  bodyLimit := 3 * Config.mebibyte
  rateLimit := none
  secret := some "s"
  maxPerPage := 100
  persistent := false
  emptyNames := true

theorem roomyService_built : Service.ofConfig roomyConfig false true = .ok roomyService := by
  have small : ¬ UInt64.size ≤ roomyConfig.bodyLimitMb.toNat * Config.mebibyte := by decide
  simp only [Service.ofConfig, if_neg small]
  rfl

/-- A request to submit whose body is an empty object behind blanks, of a size that is not
declared. -/
def paddedRequest (blanks : Nat) : Request where
  method := "POST"
  target := "/fingerprints/submit"
  authorization := some ("Bearer " ++ modifierToken)
  contentType := some "application/json"
  body := Json.padded blanks "\x7b\x7d"

theorem paddedRequest_asks (blanks : Nat) :
    roomyService.endpoint? (paddedRequest blanks) = some .submit := by
  let bare : Request := { paddedRequest 0 with authorization := none }
  have same : roomyService.endpoint? (paddedRequest blanks) = roomyService.endpoint? bare :=
    Service.endpoint?_congr rfl rfl
  rw [same]
  decide +kernel

theorem paddedRequest_read (blanks : Nat) :
    ReadsBody roomyService ⟨0, 0⟩ (paddedRequest blanks) .submit := by
  have shown : (paddedRequest blanks).actor roomyService.secret ⟨0, 0⟩ =
      .ok ⟨.ofNat 1, [.modify]⟩ :=
    Request.actor_eq_ok_iff.mpr ⟨"s", modifierToken, rfl, rfl, modifierToken_counts⟩
  have declared : (some "application/json").any declaresJson = true := by decide +kernel
  exact ⟨rfl, ⟨_, shown⟩, nofun, declared⟩

theorem paddedRequest_size (blanks : Nat) :
    (paddedRequest blanks).body.utf8ByteSize = blanks + 2 := Json.utf8ByteSize_padded ..

theorem paddedRequest_through (blanks : Nat) :
    roomyService.LetsThrough ⟨0, 0⟩ (paddedRequest blanks) [] := nofun

/-- With a body of two mebibytes and a byte, which is JSON and below the configured limit of three,
it is refused for its size. -/
theorem paddedRequest_refused :
    let r := paddedRequest 2097151
    Service.ofConfig roomyConfig false true = .ok roomyService ∧
      roomyService.LetsThrough ⟨0, 0⟩ r [] ∧
      (∃ actor, r.actor roomyService.secret ⟨0, 0⟩ = .ok actor) ∧
      (Json.parse? r.body).isSome = true ∧
      r.body.utf8ByteSize ≤ roomyConfig.bodyLimitMb.toNat * Config.mebibyte ∧
      (roomyService.exchange (MemoryStore.respond 0) ⟨0, 0⟩ r
        ⟨[], ∅, .of ∅ false⟩).1.response.RefusesSize := by
  intro r
  have size : r.body.utf8ByteSize = 2097153 := paddedRequest_size _
  have parses : Json.parse? r.body = Json.parse? "\x7b\x7d" := by
    rw [Json.parse?, Json.parse?, show Json.read r.body = _ from Json.read_padded ..]
  have through := paddedRequest_through 2097151
  refine ⟨roomyService_built, through, (paddedRequest_read _).shown, ?_, ?_, ?_⟩
  · rw [parses]
    decide +kernel
  · rw [size]
    decide
  · have overfull : Overfull roomyService ⟨0, 0⟩ r .submit := by
      refine ⟨paddedRequest_read _, ?_⟩
      rw [size]
      decide
    exact (exchange_refusesSize_iff (MemoryStore.respond 0) ⟨[], ∅, .of ∅ false⟩ through).mpr
      (Or.inr ⟨.submit, paddedRequest_asks _, overfull⟩)

/-- With a byte less, it is not. -/
theorem sizes_refused_padded :
    let r := paddedRequest 2097150
    Service.ofConfig roomyConfig false true = .ok roomyService ∧
      roomyService.LetsThrough ⟨0, 0⟩ r [] ∧
      ¬ (roomyService.exchange (MemoryStore.respond 0) ⟨0, 0⟩ r
        ⟨[], ∅, .of ∅ false⟩).1.response.RefusesSize := by
  intro r
  have size : r.body.utf8ByteSize = 2097152 := paddedRequest_size _
  refine ⟨roomyService_built, paddedRequest_through _, fun refuses => ?_⟩
  obtain ⟨exactly, -⟩ := sizes_refused roomyService_built (MemoryStore.respond 0) ⟨0, 0⟩ r
    ⟨[], ∅, .of ∅ false⟩ (paddedRequest_through _)
  rcases exactly.mp refuses with ⟨_, hlength, -⟩ | ⟨_, -, -, long⟩
  · cases hlength
  · rw [size] at long
    exact absurd long (by decide)

end Api

end SceneCatalog
