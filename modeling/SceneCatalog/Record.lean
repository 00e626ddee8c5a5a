import SceneCatalog.Fingerprint
import SceneCatalog.IdSet
import SceneCatalog.Timestamp

/-!
Records: a fingerprint of a scene with the users who have submitted it. The number of submitters
is the only measure of how well a fingerprint is corroborated.
-/
namespace SceneCatalog

/-- A fingerprint as a client states it, with the length of the media in seconds. -/
structure Claimed where
  fingerprint : Fingerprint
  duration : UInt32
deriving DecidableEq

/-- A fingerprint that at least one user stands behind. `duration` is the one that was stated
first; `updated` is the time of the last change of the submitters. -/
structure Record where
  fingerprint : Fingerprint
  duration : UInt32
  submitters : IdSet
  created : Timestamp
  updated : Timestamp
  backed : submitters ≠ ∅
deriving DecidableEq

namespace Record

/-- A record from its parts; a record without submitters is refused. -/
def ofParts (fingerprint : Fingerprint) (duration : UInt32) (submitters : IdSet)
    (created updated : Timestamp) : Except CatalogError Record :=
  if h : submitters = ∅ then .error .emptySubmitters
  else .ok ⟨fingerprint, duration, submitters, created, updated, h⟩

/-- A new record. -/
def create (claimed : Claimed) (users : IdSet) (now : Timestamp) (h : users ≠ ∅) : Record :=
  ⟨claimed.fingerprint, claimed.duration, users, now, now, h⟩

/-- A new record of one user. -/
def ofUser (claimed : Claimed) (user : Uuid) (now : Timestamp) : Record :=
  create claimed (.singleton user) now (IdSet.singleton_ne_empty user)

/-- The number of submitters. -/
def submissions (r : Record) : Nat := r.submitters.size

def isSubmittedBy (r : Record) (user : Uuid) : Bool := decide (user ∈ r.submitters)

/-- How many of the users are not yet submitters. -/
def gain (r : Record) (users : IdSet) : Nat := (users \ r.submitters).size

/-- How many of the users are submitters. -/
def loss (r : Record) (users : IdSet) : Nat := r.submitters.size - (r.submitters \ users).size

/-- The record with the users added; it counts as updated only if one of them is new. -/
def credit (r : Record) (users : IdSet) (now : Timestamp) : Record where
  fingerprint := r.fingerprint
  duration := r.duration
  submitters := r.submitters ∪ users
  created := r.created
  updated := if r.gain users = 0 then r.updated else now
  backed := IdSet.union_ne_empty r.backed users

/-- The record with the users taken out, `none` if nobody is left; it counts as updated only if
one of them was a submitter. -/
def withdraw (r : Record) (users : IdSet) (now : Timestamp) : Option Record :=
  if h : r.submitters \ users = ∅ then none
  else some
    { fingerprint := r.fingerprint
      duration := r.duration
      submitters := r.submitters \ users
      created := r.created
      updated := if r.loss users = 0 then r.updated else now
      backed := h }

@[simp] theorem fingerprint_credit (r : Record) (users : IdSet) (now : Timestamp) :
    (r.credit users now).fingerprint = r.fingerprint := rfl

theorem fingerprint_withdraw {r s : Record} {users : IdSet} {now : Timestamp}
    (h : r.withdraw users now = some s) : s.fingerprint = r.fingerprint := by
  unfold withdraw at h
  split at h
  · cases h
  · cases h
    rfl

end SceneCatalog.Record
