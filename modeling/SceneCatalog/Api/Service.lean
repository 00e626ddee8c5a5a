import SceneCatalog.Api.Action
import SceneCatalog.Api.Origins
import SceneCatalog.Api.RateLimit
import SceneCatalog.Api.Token
import SceneCatalog.Text.Hex
import SceneCatalog.Text.Parts

/-!
The service: how it is built from a configuration, and how it answers a request. A request passes
the rate limit, the limit on declared sizes and the rule about origins before it is routed; a
routed request shows its token, then its scene, then its body.
-/
namespace SceneCatalog.Api

/-- Why no service can be built from a configuration. -/
inductive BuildFault where
  /-- The list of origins holds the wildcard. -/
  | wildcardOrigin
  /-- The limit on bodies is no number of 64 bits. -/
  | bodyLimitTooGreat
  /-- The rate limit is on, but lets nothing through or has no interval. -/
  | emptyRateLimit
deriving DecidableEq

structure Service where
  origins : Origins
  /-- The greatest size of a body in bytes. -/
  bodyLimit : Nat
  rateLimit : Option RateLimit
  /-- The secret of tokens; without one no token can be checked. -/
  secret : Option String
  maxPerPage : UInt32
  /-- Whether the catalog outlives the service. -/
  persistent : Bool
  /-- Whether an empty part of a path can stand where the name of a scene is expected. The routes
  leave it open; it is up to the router. -/
  emptyNames : Bool

namespace Service

/-- The rate limit of a configuration, if it is on. The number of calls "per second" is the number
of seconds after which a call is given back. A limit that the library itself sets, on the product of
interval and burst (64 bits of nanoseconds), is left out. -/
def rateLimitOf (config : Config) : Except BuildFault (Option RateLimit) :=
  if config.rateLimitEnabled then
    let burst := config.rateLimitBurst.toNat
    let interval := config.rateLimitPerSecond.toNat * 1000000000
    if h : 0 < burst ∧ 0 < interval then .ok (some ⟨burst, interval, h.1, h.2⟩)
    else .error .emptyRateLimit
  else .ok none

/-- Builds a service from a configuration, for a catalog and a router. -/
def ofConfig (config : Config) (persistent emptyNames : Bool) : Except BuildFault Service := do
  if (config.allowedOrigins.getD []).contains "*" then .error .wildcardOrigin
  else if UInt64.size ≤ config.bodyLimitMb.toNat * Config.mebibyte then .error .bodyLimitTooGreat
  else
    return {
      origins := .ofConfig config.allowedOrigins
      bodyLimit := config.bodyLimitMb.toNat * Config.mebibyte
      rateLimit := ← rateLimitOf config
      secret := config.jwtSecret
      maxPerPage := max 1 config.maxPerPage
      persistent
      emptyNames }

end Service

/-- What a path leads to. The part of a path that names a scene is kept as it is sent. -/
inductive Route where
  | submit
  | lookup
  | sceneFingerprints (scene : String)
  | query
  | health
  | ready
deriving DecidableEq

/-- The route of a path, for a router that takes empty names or does not. -/
def Route.ofPath? (emptyNames : Bool) (path : String) : Option Route :=
  match Text.parts '/' path with
  | ["", "fingerprints", "submit"] => some .submit
  | ["", "fingerprints", "lookup"] => some .lookup
  | ["", "scenes", "query"] => some .query
  | ["", "scenes", scene, "fingerprints"] =>
    if scene = "" ∧ emptyNames = false then none else some (.sceneFingerprints scene)
  | ["", "health"] => some .health
  | ["", "ready"] => some .ready
  | _ => none

/-- A call of the service: a route and what the method does there. -/
inductive Endpoint where
  | submit
  | lookup
  | showScene (scene : String)
  | reconcile (scene : String)
  | query
  | health
  | ready
deriving DecidableEq

/-- The call that a method makes on a route. `HEAD` does what `GET` does. -/
def Route.endpoint? (route : Route) (method : String) : Option Endpoint :=
  let reads := method = "GET" ∨ method = "HEAD"
  match route with
  | .submit => if method = "POST" then some .submit else none
  | .lookup => if method = "POST" then some .lookup else none
  | .query => if method = "POST" then some .query else none
  | .sceneFingerprints scene =>
    if reads then some (.showScene scene)
    else if method = "PUT" then some (.reconcile scene)
    else none
  | .health => if reads then some .health else none
  | .ready => if reads then some .ready else none

/-- The body of an error. -/
def Error.toJson (e : Error) : Json :=
  .object [("error", .string e.clientMessage), ("code", .string e.code)]

def Error.toResponse (e : Error) : Response := .json e.status e.toJson

/-- A response in the making. -/
abbrev Answering := Running StoreCall StoreCall.Reply Response

/-- The response that an action ends in. -/
def Action.toResponse (action : Action Json) : Answering :=
  action.run.bind fun
    | .ok json => .done (.json 200 json)
    | .error e => .done e.toResponse

namespace Request

/-- The token that a request shows. -/
def bearer (r : Request) : Except AuthFault String :=
  match r.authorization with
  | none => .error .missingHeader
  | some header =>
    if !header.toList.all isPlain then .error .headerNotText
    else if "Bearer ".toList.isPrefixOf header.toList then .ok (String.ofList (header.toList.drop 7))
    else .error .notBearer

/-- The user that a request comes from. -/
def actor (r : Request) (secret : Option String) (now : Timestamp) : Except Error Actor :=
  match r.bearer with
  | .error fault => .error (.unauthenticated fault)
  | .ok token =>
    match secret with
    | none => .error (.internal "JWT authentication not configured (missing JWT_SECRET)")
    | some secret => (Token.check secret now token).mapError .unauthenticated

end Request

namespace Service

/-- Goes on with the user of a request. -/
def withActor (s : Service) (now : Timestamp) (r : Request) (next : Actor → Answering) :
    Answering :=
  match r.actor s.secret now with
  | .error e => .done e.toResponse
  | .ok actor => next actor

/-- The response where the path names no scene. Its text goes on with a reason, which is left
out. -/
def noScene : Response := .text 400 "Invalid URL"

/-- Goes on with the scene that a part of the path names. -/
def withScene (part : String) (next : Uuid → Answering) : Answering :=
  match (Text.percentDecode? part).bind Uuid.parse? with
  | none => .done noScene
  | some scene => next scene

/-- Goes on with the body of a request. -/
def withBody (s : Service) (r : Request) (decode : Json.Draft → Except Json.Fault α)
    (next : α → Answering) : Answering :=
  match r.decodeBody s.bodyLimit decode with
  | .error fault => .done (Error.badRequest fault.message).toResponse
  | .ok a => next a

def healthReport (s : Service) : Json :=
  .object [
    ("status", .string "healthy"),
    ("version", .string "0.1.0"),
    ("service", .string "scenedb-server"),
    ("storage", .string (if s.persistent then "postgres" else "memory"))]

/-- Asks whether the catalog can be reached. -/
def readiness : Answering :=
  .ask (.call .checkHealth) fun
    | .ok () => .done (.json 200 (.object [("ready", .bool true)]))
    | .error _ => .done (.json 503 (.object [
        ("ready", .bool false), ("message", .string "Catalog store unavailable")]))

/-- Answers a call. -/
def serve (s : Service) (now : Timestamp) (r : Request) : Endpoint → Answering
  | .submit =>
    s.withActor now r fun actor => s.withBody r SubmitRequest.ofDraft fun request =>
      (submit now actor request).toResponse
  | .lookup =>
    s.withActor now r fun actor => s.withBody r LookupRequest.ofDraft fun request =>
      (lookup actor request).toResponse
  | .showScene part =>
    s.withActor now r fun actor => withScene part fun scene => (showScene actor scene).toResponse
  | .reconcile part =>
    s.withActor now r fun actor => withScene part fun scene =>
      s.withBody r ReconcileRequest.ofDraft fun request =>
        (reconcile now actor scene request).toResponse
  | .query =>
    s.withActor now r fun actor => s.withBody r QueryRequest.ofDraft fun request =>
      (queryPage s.maxPerPage actor request).toResponse
  | .health => .done (.json 200 s.healthReport)
  | .ready => readiness

/-- Answers a request that has a route and a method. -/
def route (s : Service) (now : Timestamp) (r : Request) : Answering :=
  match Route.ofPath? s.emptyNames r.path with
  | none => .done (.empty 404)
  | some route =>
    match route.endpoint? r.method with
    | none => .done (.empty 405)
    | some endpoint => s.serve now r endpoint

/-- Answers a request that the rate limit lets through. A declared size above the limit is refused
before anything else, and a question about what is allowed is answered for every path. -/
def answer (s : Service) (now : Timestamp) (r : Request) : Answering :=
  if r.contentLength.any (s.bodyLimit < ·) then .done (.text 413 "length limit exceeded")
  else
    let allowOrigin := s.origins.allow r.origin
    if r.method = "OPTIONS" then .done { Response.empty 200 with allowOrigin }
    else (s.route now r).bind fun response => .done { response with allowOrigin }

/-- The response as it is sent. A `HEAD` request gets no body, with one exception: where an absolute
path leads nowhere, the text of a refusal in front of the routes is kept. -/
def send (s : Service) (r : Request) (response : Response) : Response :=
  let leadsNowhere :=
    r.path.toList.head? == some '/' && (Route.ofPath? s.emptyNames r.path).isNone
  if r.method = "HEAD" && !leadsNowhere then response.withoutBody else response

/-- Answers a request and remembers what the rate limit has to know. -/
def handle (s : Service) (now : Timestamp) (r : Request) (debts : RateLimit.Debts) :
    Answering × RateLimit.Debts :=
  let finish (answering : Answering) : Answering :=
    answering.bind fun response => .done (s.send r response)
  match s.rateLimit with
  | none => (finish (s.answer now r), debts)
  | some limit =>
    match r.peer with
    | none => (finish (.done (.text 500 "Unable To Extract Key!")), debts)
    | some peer =>
      match limit.take now.toNanos peer debts with
      | (true, debts) => (finish (s.answer now r), debts)
      | (false, debts) => (finish (.done (.text 429 "Too Many Requests!")), debts)

end Service

end SceneCatalog.Api
