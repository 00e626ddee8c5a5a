import SceneCatalog.Api.Error
import SceneCatalog.Api.WebKey
import SceneCatalog.Digest.Sha256
import SceneCatalog.Json.Reader
import SceneCatalog.Text.Base64Url
import SceneCatalog.Text.Parts
import SceneCatalog.Timestamp

/-!
Tokens by which users show who they are: a header, claims and a signature, each in base 64 and with
dots between them. The signature is the code of what stands before its dot, under a secret that
only the service and the issuer of tokens know.
-/
namespace SceneCatalog.Api

open Json Text

/-- What a token says: the user, the user's roles, and the second after which it no longer
counts. -/
structure Claims where
  subject : Uuid
  roles : List Role
  expires : UInt64
deriving DecidableEq

/-- How deep arrays and objects may lie in a claim. -/
def Claims.maxDepth : Nat := 126

/-- Whether a value has no parts. -/
def isFlat : Draft → Bool
  | .array items => items.isEmpty
  | .object members => members.isEmpty
  | _ => true

/-- Whether a claim can be passed. A starting time, an issuer and an audience have no effect,
whatever they are, but the reader has to get behind them, and is lost where it meets a part that it
cannot take with others behind it. -/
def Claims.isPassed : Option String × Draft → Bool
  | (some "nbf", value) => isFlat value && value.isPassed maxDepth
  | (some "iss", value) | (some "aud", value) => value.isPassed maxDepth
  | _ => true

/-- Reads claims. They are an object. -/
def Claims.ofDraft (draft : Draft) : Except Fault Claims := do
  let claims ← draft.asRecord ["sub", "roles", "exp"] fun fields =>
    Claims.mk <$> fields.get "sub" .refused Draft.asUuid
      <*> fields.get "roles" (.default []) (Draft.asList Role.ofDraft)
      <*> fields.get "exp" .refused Draft.asUInt64
  match draft with
  | .object members =>
    let isRepeated (name : String) : Bool := 1 < (members.filter (·.1 == some name)).length
    if ["nbf", "iss", "aud"].any isRepeated then .error .mismatch
    else if members.all Claims.isPassed then .ok claims
    else .error .malformed
  | _ => .error .mismatch

/-- The ways of signing that a header may name. -/
inductive SigningMethod where
  /-- The only one that is accepted. -/
  | hs256
  | other (name : String)
deriving DecidableEq

def SigningMethod.ofName? (name : String) : Option SigningMethod :=
  if name = "HS256" then some .hs256
  else if WebKey.signatures.contains name then some (.other name)
  else none

/-- Reads a header, of which only the way of signing counts. The other parts have to be of their
types all the same. -/
def SigningMethod.ofHeader : Draft → Except Fault SigningMethod :=
  let text (fields : Fields) (name : String) : Located (Option String) :=
    fields.get name (.defaultInObject none) (Draft.asNullable Draft.asString)
  Draft.asRecord ["typ", "alg", "cty", "jku", "jwk", "kid", "x5u", "x5c", "x5t", "x5t#S256"]
    fun fields =>
      (fun _ alg _ _ _ _ _ _ _ _ => alg) <$> text fields "typ"
        <*> fields.get "alg" .refused (Draft.asName SigningMethod.ofName?)
        <*> text fields "cty" <*> text fields "jku"
        <*> fields.get "jwk" (.defaultInObject none)
          (Draft.asNullable fun draft =>
            if WebKey.isKey draft then .ok () else .error Fault.mismatch)
        <*> text fields "kid" <*> text fields "x5u"
        <*> fields.get "x5c" (.defaultInObject none) (Draft.asNullable (Draft.asList Draft.asString))
        <*> text fields "x5t" <*> text fields "x5t#S256"

namespace Token

/-- The seconds for which an expired token still counts. -/
def leeway : Nat := 60

/-- A part of a token: JSON in base 64. -/
def readPart (decode : Draft → Except Fault α) (part : String) : Except AuthFault α :=
  match Base64Url.decode? part.toList with
  | none => .error .badEncoding
  | some bytes =>
    match (Json.readBytes bytes).decode decode with
    | .ok a => .ok a
    | .error _ => .error .badJson

/-- The signature of a text. -/
def signature (secret text : String) : String :=
  String.ofList (Base64Url.encode (Digest.hmacSha256 secret.toUTF8.toList text.toUTF8.toList))

/-- A text without its last part, and that part. -/
def splitLast? (text : String) : Option (String × String) :=
  match (parts '.' text).reverse with
  | last :: part :: parts => some (".".intercalate (part :: parts).reverse, last)
  | _ => none

/-- Whether a token counts at a time, by the second in which it expires. -/
def isFresh (expires : UInt64) (now : Timestamp) : Bool := now.seconds - leeway ≤ expires.toNat

/-- Reads and checks a token: its form, its way of signing, its signature, its claims and its time,
in this order. -/
def check (secret : String) (now : Timestamp) (token : String) : Except AuthFault Actor := do
  match splitLast? token with
  | none => .error .notAToken
  | some (message, given) =>
    match splitLast? message with
    | none => .error .notAToken
    | some (header, payload) =>
      match ← readPart SigningMethod.ofHeader header with
      | .other _ => .error .wrongAlgorithm
      | .hs256 =>
        if given ≠ signature secret message then .error .badSignature
        else
          let claims ← readPart Claims.ofDraft payload
          if isFresh claims.expires now then .ok ⟨claims.subject, claims.roles⟩
          else .error .expired

/-- A token over claims that are given as JSON. The header names a way of signing; the signature is
of the way that is accepted, whatever the name. -/
def sign (secret method : String) (claims : Json) : String :=
  let part (json : Json) := String.ofList (Base64Url.encode json.compact.toUTF8.toList)
  let header : Json := .object [("typ", .string "JWT"), ("alg", .string method)]
  let message := part header ++ "." ++ part claims
  message ++ "." ++ signature secret message

end Token

end SceneCatalog.Api
