import SceneCatalog.Json.Decode

/-!
Roles of users. Each role includes the ones below it.
-/
namespace SceneCatalog

inductive Role where
  /-- May look fingerprints up and query scenes. -/
  | read
  /-- May submit, withdraw and reconcile fingerprints. -/
  | modify
  /-- May act for other users. -/
  | admin
deriving DecidableEq

namespace Role

def all : List Role := [.read, .modify, .admin]

def name : Role → String
  | .read => "READ"
  | .modify => "MODIFY"
  | .admin => "ADMIN"

def ofName? (s : String) : Option Role := all.find? (·.name == s)

/-- The height of a role among the others. -/
def rank : Role → Nat
  | .read => 0
  | .modify => 1
  | .admin => 2

/-- Whether a role includes another. -/
def includes (granted wanted : Role) : Bool := wanted.rank ≤ granted.rank

def ofDraft : Json.Draft → Except Json.Fault Role := Json.Draft.asName ofName?

end Role

/-- The user that a request comes from. -/
structure Actor where
  user : Uuid
  roles : List Role
deriving DecidableEq

/-- Whether the user has the role or one above it. -/
def Actor.has (actor : Actor) (role : Role) : Bool := actor.roles.any (·.includes role)

end SceneCatalog
