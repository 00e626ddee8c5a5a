import SceneCatalog.Api.Error
import SceneCatalog.Api.MediaType
import SceneCatalog.Api.Request
import SceneCatalog.Config
import SceneCatalog.Wire.Decode

/-!
What clients send in the bodies of their requests, and how it is read: the body has to be declared
as JSON, must not be too long, and has to decode. The first of these that fails is reported.
-/
namespace SceneCatalog.Api

open Json

/-- Why the body of a request is not taken. -/
inductive BodyFault where
  | notDeclaredJson
  | tooLong
  | undecodable (fault : Fault)
deriving DecidableEq

/-- What is said of a fault: the fixed first part of the text, which goes on with a reason. -/
def BodyFault.message : BodyFault → String
  | .notDeclaredJson => "Expected request with `Content-Type: application/json`"
  | .tooLong => "Failed to buffer the request body"
  | .undecodable .malformed => "Failed to parse the request body as JSON"
  | .undecodable .mismatch => "Failed to deserialize the JSON body into the target type"

/-- The greatest number of bytes that is read of a JSON body, whatever the configuration says. -/
def jsonBodyLimit : Nat := 2 * Config.mebibyte

/-- Reads the body of a request, of which no more than `limit` bytes are taken. -/
def Request.decodeBody (r : Request) (limit : Nat) (decode : Draft → Except Fault α) :
    Except BodyFault α :=
  if !r.contentType.any declaresJson then .error .notDeclaredJson
  else if min limit jsonBodyLimit < r.body.utf8ByteSize then .error .tooLong
  else ((Json.read r.body).decode decode).mapError .undecodable

/-- A submission or withdrawal as it is sent. -/
structure SubmitRequest where
  scene : Uuid
  algorithm : String
  hash : String
  duration : Option UInt32
  users : Option (List Uuid)
  unmatch : Bool
deriving DecidableEq

def userIds (fields : Fields) : Located (Option (List Uuid)) :=
  fields.get "user_ids" (.default none) (Draft.asNullable (Draft.asList Draft.asUuid))

def SubmitRequest.ofDraft : Draft → Except Fault SubmitRequest :=
  Draft.asRecord ["scene_id", "algorithm", "hash", "duration", "user_ids", "unmatch"] fun fields =>
    SubmitRequest.mk <$> fields.get "scene_id" .refused Draft.asUuid
      <*> fields.get "algorithm" .refused Draft.asString
      <*> fields.get "hash" .refused Draft.asString
      <*> fields.get "duration" (.default none) (Draft.asNullable Draft.asUInt32)
      <*> userIds fields
      <*> fields.get "unmatch" (.default false) Draft.asBool

/-- A fingerprint that is looked for, as it is sent. -/
structure FingerprintQuery where
  algorithm : String
  hash : String
deriving DecidableEq

def FingerprintQuery.ofDraft : Draft → Except Fault FingerprintQuery :=
  Draft.asRecord ["algorithm", "hash"] fun fields =>
    FingerprintQuery.mk <$> fields.get "algorithm" .refused Draft.asString
      <*> fields.get "hash" .refused Draft.asString

/-- A look-up as it is sent. -/
structure LookupRequest where
  fingerprints : List FingerprintQuery
  hashes : List String
deriving DecidableEq

def LookupRequest.ofDraft : Draft → Except Fault LookupRequest :=
  Draft.asRecord ["fingerprints", "hashes"] fun fields =>
    LookupRequest.mk
      <$> fields.get "fingerprints" (.default []) (Draft.asList FingerprintQuery.ofDraft)
      <*> fields.get "hashes" (.default []) (Draft.asList Draft.asString)

/-- A fingerprint that a scene shall have, as it is sent. -/
structure EditRequest where
  algorithm : String
  hash : String
  duration : UInt32
  users : Option (List Uuid)
deriving DecidableEq

def EditRequest.ofDraft : Draft → Except Fault EditRequest :=
  Draft.asRecord ["algorithm", "hash", "duration", "user_ids"] fun fields =>
    EditRequest.mk <$> fields.get "algorithm" .refused Draft.asString
      <*> fields.get "hash" .refused Draft.asString
      <*> fields.get "duration" .refused Draft.asUInt32
      <*> userIds fields

/-- The fingerprints that a scene shall have, as they are sent. -/
structure ReconcileRequest where
  fingerprints : List EditRequest
deriving DecidableEq

def ReconcileRequest.ofDraft : Draft → Except Fault ReconcileRequest :=
  Draft.asRecord ["fingerprints"] fun fields =>
    ReconcileRequest.mk <$> fields.get "fingerprints" .refused (Draft.asList EditRequest.ofDraft)

/-- A query of scenes as it is sent. -/
structure QueryRequest where
  filter : Filter
  spec : PageSpec
deriving DecidableEq

namespace QueryRequest

/-- How deep arrays and objects may lie in the body, the body itself included. -/
def maxDepth : Nat := 127

/-- The first fault among the members that are not the filter. They are held until the object has
been read, whatever they are. -/
def heldMember : (place : Nat) → (filtered : Bool) → List (Option String × Draft) → Located Unit
  | _, _, [] => .ok ()
  | place, _, (none, _) :: _ => .fault place .malformed
  | place, filtered, (some key, value) :: rest =>
    if key = "filter" then
      if filtered then .fault place .mismatch else heldMember (place + 1) true rest
    else if value.isHeld (maxDepth - 1) then heldMember (place + 1) filtered rest
    else .fault place .malformed

/-- A number among the members, looked at when the object has been read. -/
def heldNumber (members : List (Option String × Draft)) (name : String) :
    Located (Option UInt32) :=
  match members.filter (·.1 == some name) with
  | [] => .ok none
  | [(_, value)] =>
    match Draft.asNullable Draft.asUInt32 value with
    | .ok n => .ok n
    | .error _ => .fault members.length .mismatch
  | _ => .fault members.length .mismatch

/-- Reads a query: an object with a filter and the page, side by side. -/
def ofDraft : Draft → Except Fault QueryRequest
  | .object members =>
    let fields : Fields := ⟨["filter"], .inl members⟩
    let request := (fun _ filter page perPage => QueryRequest.mk filter ⟨page, perPage⟩)
      <$> heldMember 0 false members
      <*> fields.get "filter" (.default Filter.empty) Filter.ofDraft
      <*> heldNumber members "page" <*> heldNumber members "per_page"
    request.toExcept
  | draft => .error draft.faultOf

end QueryRequest

end SceneCatalog.Api
