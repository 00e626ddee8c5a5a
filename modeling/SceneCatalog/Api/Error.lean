import SceneCatalog.Error
import SceneCatalog.Role

/-!
Errors as clients of the service see them: a status, a code for programs and a text. What the
store says about its failures is not for clients.
-/
namespace SceneCatalog.Api

/-- Why a request is not accepted as coming from a user. -/
inductive AuthFault where
  | missingHeader
  /-- The header holds bytes that are no plain text. -/
  | headerNotText
  | notBearer
  /-- The token does not have three parts. -/
  | notAToken
  | badEncoding
  | badJson
  | wrongAlgorithm
  | badSignature
  | expired
  /-- A reason that a caller gives in its own words. -/
  | stated (text : String)
deriving DecidableEq

/-- What is said of a fault. What the readers of encodings and of JSON add to theirs is left out. -/
def AuthFault.message : AuthFault → String
  | .missingHeader => "Missing Authorization header"
  | .headerNotText => "Invalid Authorization header encoding"
  | .notBearer => "Authorization header must use Bearer scheme"
  | .notAToken => "JWT validation failed: InvalidToken"
  | .badEncoding => "JWT validation failed: Base64 error"
  | .badJson => "JWT validation failed: JSON error"
  | .wrongAlgorithm => "JWT validation failed: InvalidAlgorithm"
  | .badSignature => "Invalid JWT signature"
  | .expired => "JWT token has expired"
  | .stated text => text

/-- A request that is not answered as it wished. -/
inductive Error where
  | badRequest (text : String)
  | unauthorized (text : String)
  | forbidden (text : String)
  | notFound (text : String)
  | internal (text : String)
  | unavailable (text : String)
  | unauthenticated (fault : AuthFault)
  | catalog (error : CatalogError)
deriving DecidableEq

namespace Error

/-- The full text, for logs. -/
def message : Error → String
  | .badRequest text => s!"Bad request: {text}"
  | .unauthorized text => s!"Unauthorized: {text}"
  | .forbidden text => s!"Forbidden: {text}"
  | .notFound text => s!"Not found: {text}"
  | .internal text => s!"Internal error: {text}"
  | .unavailable text => s!"Service unavailable: {text}"
  | .unauthenticated fault => fault.message
  | .catalog error => s!"Catalog error: {error.message}"

/-- The text for clients: nothing of what the store said. -/
def clientMessage : Error → String
  | .catalog (.store _) => "A database error occurred"
  | .catalog error => error.message
  | error => error.message

def status : Error → Nat
  | .badRequest _ => 400
  | .unauthorized _ => 401
  | .unauthenticated _ => 401
  | .forbidden _ => 403
  | .notFound _ => 404
  | .internal _ => 500
  | .unavailable _ => 503
  | .catalog (.sceneNotFound _) => 404
  | .catalog (.store _) => 500
  | .catalog _ => 400

def code : Error → String
  | .badRequest _ => "INVALID_INPUT"
  | .unauthorized _ => "UNAUTHORIZED"
  | .forbidden _ => "FORBIDDEN"
  | .unauthenticated _ => "AUTH_ERROR"
  | .notFound _ => "NOT_FOUND"
  | .internal _ => "INTERNAL_ERROR"
  | .unavailable _ => "SERVICE_UNAVAILABLE"
  | .catalog (.unknownAlgorithm _) => "UNKNOWN_ALGORITHM"
  | .catalog (.invalidHash _ _ _) => "INVALID_HASH"
  | .catalog (.invalidModifier _ _) => "INVALID_MODIFIER"
  | .catalog (.missingCriterionValue _ _) => "MISSING_CRITERION_VALUE"
  | .catalog (.invalidPagination _) => "INVALID_PAGINATION"
  | .catalog .emptySubmitters => "EMPTY_SUBMITTERS"
  | .catalog (.sceneNotFound _) => "SCENE_NOT_FOUND"
  | .catalog (.store _) => "STORE_ERROR"

end Error

/-- Refuses a user that has not got the role. -/
def require (actor : Actor) (role : Role) : Except Error Unit :=
  if actor.has role then .ok () else .error (.forbidden s!"{role.name} role required")

end SceneCatalog.Api
