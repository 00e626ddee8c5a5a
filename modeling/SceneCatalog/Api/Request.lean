import SceneCatalog.Api.Address
import SceneCatalog.Json.Basic

/-!
Requests as they come in and responses as they go out.
-/
namespace SceneCatalog.Api

/-- A request. A header that is not sent is `none`. -/
structure Request where
  method : String
  /-- What is asked for, as it is sent: a path, or a whole address with scheme and host. -/
  target : String
  authorization : Option String := none
  contentType : Option String := none
  /-- The size of the body as it is declared. -/
  contentLength : Option Nat := none
  origin : Option String := none
  /-- The address that the request comes from, if it is known. -/
  peer : Option Address := none
  /-- The body, which is text: bodies that are no text in UTF-8 are left out. -/
  body : String := ""
deriving DecidableEq

/-- The text behind the first `://`, if there is one. -/
def behindScheme? : List Char → Option (List Char)
  | [] => none
  | ':' :: '/' :: '/' :: rest => some rest
  | _ :: rest => behindScheme? rest

/-- Whether a character ends the host of an address. -/
def endsHost (c : Char) : Bool := c == '/' || c == '?' || c == '#'

/-- The path that is asked for, without what follows a question mark or a hash. An address without
a path asks for the root; what has no scheme and does not start with a slash has no path. -/
def Request.path (r : Request) : String :=
  let upToQuery (cs : List Char) := cs.takeWhile fun c => c ≠ '?' && c ≠ '#'
  let target := r.target.toList
  if target.head? == some '/' then String.ofList (upToQuery target)
  else
    match behindScheme? target with
    | none => ""
    | some rest =>
      match upToQuery (rest.dropWhile (!endsHost ·)) with
      | [] => "/"
      | path => String.ofList path

/-- The body of a response. -/
inductive Content where
  | empty
  | text (text : String)
  | json (value : Json)

structure Response where
  status : Nat
  content : Content
  /-- The header that says which origin may read the response. -/
  allowOrigin : Option String

namespace Response

def empty (status : Nat) : Response := ⟨status, .empty, none⟩

def text (status : Nat) (text : String) : Response := ⟨status, .text text, none⟩

def json (status : Nat) (value : Json) : Response := ⟨status, .json value, none⟩

def isSuccess (r : Response) : Bool := 200 ≤ r.status && r.status < 300

def withoutBody (r : Response) : Response := { r with content := .empty }

end Response

end SceneCatalog.Api
