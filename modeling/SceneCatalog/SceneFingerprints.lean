import SceneCatalog.Record

/-!
The records of one scene, in the order of their creation and with one record for a fingerprint.
Submitting, withdrawing and reconciling are plain functions here; when they are called and what
becomes of the result is decided elsewhere.
-/
namespace SceneCatalog

/-- The records of a scene, the oldest first. -/
structure SceneFingerprints where
  records : List Record
  distinct : records.Pairwise fun r s => r.fingerprint ≠ s.fingerprint
deriving DecidableEq

/-- What a submission did. -/
inductive SubmitOutcome where
  | created
  /-- The record gained submitters. -/
  | corroborated (added : Nat)
  | unchanged
deriving DecidableEq

def SubmitOutcome.isChange : SubmitOutcome → Bool
  | .unchanged => false
  | _ => true

/-- What a withdrawal did. -/
inductive RetractOutcome where
  /-- The record lost submitters and stays. -/
  | retracted (removed : Nat)
  /-- The last submitters left, and the record with them. -/
  | removed
  | unchanged
  /-- There is no record for the fingerprint. -/
  | absent
deriving DecidableEq

def RetractOutcome.isChange : RetractOutcome → Bool
  | .retracted _ | .removed => true
  | .unchanged | .absent => false

/-- An entry of a wanted set of fingerprints: the users named with it, or none where the acting
user is meant if a record has to be made. -/
structure Edit where
  claimed : Claimed
  users : Option (List Uuid)
deriving DecidableEq

namespace Edit

def fingerprint (edit : Edit) : Fingerprint := edit.claimed.fingerprint

/-- Whether the entry names users and then names nobody. -/
def namesNobody (edit : Edit) : Bool := edit.users == some []

/-- The users named with the entry. -/
def named (edit : Edit) : IdSet := IdSet.ofList (edit.users.getD [])

/-- The first submitters of a record made for the entry. -/
def founders (edit : Edit) (acting : Uuid) : IdSet :=
  match edit.users with
  | some (user :: users) => IdSet.ofList (user :: users)
  | _ => IdSet.singleton acting

theorem founders_ne_empty (edit : Edit) (acting : Uuid) : edit.founders acting ≠ ∅ := by
  unfold founders
  split
  · exact IdSet.ne_empty_of_mem (IdSet.mem_ofList.mpr List.mem_cons_self)
  · exact IdSet.singleton_ne_empty acting

end Edit

/-- What a reconciliation did. `corroborated` counts the entries that brought new submitters to a
record that was there when the entry was reached. -/
structure Summary where
  added : Nat
  kept : Nat
  removed : Nat
  corroborated : Nat
deriving DecidableEq

def Summary.isChange (s : Summary) : Bool := 0 < s.added || 0 < s.removed || 0 < s.corroborated

namespace SceneFingerprints

def empty : SceneFingerprints := ⟨[], List.Pairwise.nil⟩

instance : EmptyCollection SceneFingerprints := ⟨empty⟩

/-- The record for a fingerprint. -/
def get? (s : SceneFingerprints) (f : Fingerprint) : Option Record :=
  s.records.find? fun r => decide (r.fingerprint = f)

/-- The fingerprints that have a record. -/
def fingerprints (s : SceneFingerprints) : List Fingerprint := s.records.map (·.fingerprint)

/-- The records that pass a test. -/
def keep (s : SceneFingerprints) (p : Record → Bool) : SceneFingerprints :=
  ⟨s.records.filter p, s.distinct.filter p⟩

/-- Without the record for a fingerprint. -/
def remove (s : SceneFingerprints) (f : Fingerprint) : SceneFingerprints :=
  s.keep fun r => !decide (r.fingerprint = f)

/-- Applies `change`, which keeps fingerprints, to every record. -/
def mapRecords (s : SceneFingerprints) (change : Record → Record)
    (h : ∀ r, (change r).fingerprint = r.fingerprint) : SceneFingerprints :=
  ⟨s.records.map change, by
    rw [List.pairwise_map]
    exact s.distinct.imp fun hne => by simpa only [h] using hne⟩

/-- Adds users to the record for a fingerprint. -/
def credit (s : SceneFingerprints) (f : Fingerprint) (users : IdSet) (now : Timestamp) :
    SceneFingerprints :=
  s.mapRecords (fun r => if r.fingerprint = f then r.credit users now else r) fun r => by
    split <;> simp

theorem get?_eq_none_iff {s : SceneFingerprints} {f : Fingerprint} :
    s.get? f = none ↔ ∀ r ∈ s.records, r.fingerprint ≠ f := by
  simp [get?]

theorem fingerprint_of_get? {s : SceneFingerprints} {f : Fingerprint} {r : Record}
    (h : s.get? f = some r) : r.fingerprint = f := by
  simpa using List.find?_some h

/-- Puts a record at the end, unless its fingerprint has one. -/
def append (s : SceneFingerprints) (r : Record) : SceneFingerprints :=
  if h : s.get? r.fingerprint = none then
    ⟨s.records ++ [r], by
      rw [List.pairwise_append]
      refine ⟨s.distinct, List.pairwise_singleton .., fun a ha b hb => ?_⟩
      rw [List.mem_singleton.mp hb]
      exact get?_eq_none_iff.mp h a ha⟩
  else s

/-- Takes in a stored record: a fingerprint that has a record already only brings its submitters,
as of the time of the stored record. -/
def merge (s : SceneFingerprints) (r : Record) : SceneFingerprints :=
  match s.get? r.fingerprint with
  | some _ => s.credit r.fingerprint r.submitters r.updated
  | none => s.append r

/-- The collection that a stored list stands for, also where the list repeats a fingerprint. -/
def ofRecords (rs : List Record) : SceneFingerprints := rs.foldl merge ∅

/-- Adds users to the record for a claimed fingerprint, making the record if there is none. An
existing record keeps its duration. Gives what happened, the record and the collection. -/
def submit (s : SceneFingerprints) (claimed : Claimed) (users : IdSet) (now : Timestamp) :
    Except CatalogError (SubmitOutcome × Record × SceneFingerprints) :=
  if h : users = ∅ then .error .emptySubmitters
  else
    match s.get? claimed.fingerprint with
    | some r =>
      let added := r.gain users
      .ok (if added = 0 then .unchanged else .corroborated added, r.credit users now,
        s.credit claimed.fingerprint users now)
    | none =>
      let r := Record.create claimed users now h
      .ok (.created, r, s.append r)

/-- Takes users out of the record for a fingerprint, and the record away when nobody is left. -/
def retract (s : SceneFingerprints) (f : Fingerprint) (users : IdSet) (now : Timestamp) :
    RetractOutcome × SceneFingerprints :=
  match s.get? f with
  | none => (.absent, s)
  | some r =>
    let lost := r.loss users
    if lost = 0 then (.unchanged, s)
    else
      match h : r.withdraw users now with
      | none => (.removed, s.remove f)
      | some left =>
        (.retracted lost,
          s.mapRecords (fun q => if q = r then left else q) fun q => by
            by_cases e : q = r
            · subst e
              simpa using Record.fingerprint_withdraw h
            · simp [e])

/-- Where a reconciliation stands: the collection, the counts, and the fingerprints of the entries
dealt with. -/
structure Reconciling where
  current : SceneFingerprints
  summary : Summary
  seen : List Fingerprint

/-- Deals with one entry: a record that is there gains the named users, another is made. -/
def Reconciling.apply (acting : Uuid) (now : Timestamp) (state : Reconciling) (edit : Edit) :
    Reconciling :=
  let seen := edit.fingerprint :: state.seen
  match state.current.get? edit.fingerprint with
  | some r =>
    let gained := r.gain edit.named
    let isFirst := !state.seen.contains edit.fingerprint
    { current := state.current.credit edit.fingerprint edit.named now
      summary :=
        { state.summary with
          corroborated := state.summary.corroborated + (if 0 < gained then 1 else 0)
          kept := state.summary.kept + (if isFirst then 1 else 0) }
      seen }
  | none =>
    let r := Record.create edit.claimed (edit.founders acting) now (edit.founders_ne_empty acting)
    { current := state.current.append r
      summary := { state.summary with added := state.summary.added + 1 }
      seen }

/-- Replaces the collection by the wanted one: records that are not wanted go, wanted ones keep
their submitters and gain the named users, missing ones are made. Nothing happens if an entry
names users and then names nobody. -/
def reconcile (s : SceneFingerprints) (desired : List Edit) (acting : Uuid) (now : Timestamp) :
    Except CatalogError (Summary × SceneFingerprints) :=
  if desired.any Edit.namesNobody then .error .emptySubmitters
  else
    let kept := s.keep fun r => desired.any fun edit => decide (edit.fingerprint = r.fingerprint)
    let start : Reconciling :=
      ⟨kept, ⟨0, 0, s.records.length - kept.records.length, 0⟩, []⟩
    let final := desired.foldl (Reconciling.apply acting now) start
    .ok (final.summary, final.current)

end SceneCatalog.SceneFingerprints
