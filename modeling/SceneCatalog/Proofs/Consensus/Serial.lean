import SceneCatalog.Proofs.Association
import SceneCatalog.Proofs.Consensus.Alone
import SceneCatalog.Proofs.Locks.Exclusion

/-!
What it means that changes which run side by side might as well have run one after another, and
how the order in which they are taken relates to the schedule. Changes that ask for no lock may
stand anywhere in that order, since they leave no trace.
-/
namespace SceneCatalog

/-! ## One after another -/

/-- The stored list of a scene when the given changes of it have been made one after another. -/
def Catalog.replay (catalog : Catalog) (scene : Uuid) (calls : List (Change × Timestamp)) :
    List Record :=
  calls.foldl (fun stored call =>
    (call.1.alone (catalog.scene? scene).isSome call.2 stored).2) (catalog.records scene)

namespace Workers

variable {σ : Type}

/-- Whether call `i` is one of a scene. -/
def isOf (calls : List (Change × Timestamp)) (scene : Uuid) (i : Nat) : Bool :=
  calls[i]?.any fun call => decide (call.1.scene = scene)

/-- The calls of a scene by number, in the order in which a schedule first gives them a turn. This
is when they ask for the lock of the scene. -/
def startOrder (calls : List (Change × Timestamp)) (schedule : List Nat) (scene : Uuid) :
    List Nat :=
  schedule.eraseDups.filter (isOf calls scene)

/-- The calls with the given numbers. -/
def callsAt (calls : List (Change × Timestamp)) (order : List Nat) : List (Change × Timestamp) :=
  order.filterMap fun i => calls[i]?

/-- The calls of the scene of call `i` that had their first turn before it. -/
def callsBefore (calls : List (Change × Timestamp)) (schedule : List Nat) (i : Nat) :
    List (Change × Timestamp) :=
  callsAt calls ((startOrder calls schedule (sceneOf calls i)).takeWhile (· ≠ i))

/-- Replies and stored lists are those of the changes made one after another. -/
structure Serial (catalog : Catalog) (calls : List (Change × Timestamp)) (schedule : List Nat)
    (w : Workers StoreCall StoreCall.Reply MemoryStore (Except CatalogError ChangeReply)) :
    Prop where
  /-- A call that is over has the reply that it has after the calls that asked before it. -/
  replies : ∀ (i : Nat) (call : Change × Timestamp) (reply : Except CatalogError ChangeReply),
    calls[i]? = some call → w.results[i]? = some (some reply) →
      reply = (call.1.alone (catalog.scene? call.1.scene).isSome call.2
        (catalog.replay call.1.scene (callsBefore calls schedule i))).1
  /-- When all calls are over, the stored list of every scene is what they leave. -/
  stored : w.Over → ∀ scene, w.state.catalog.records scene =
    catalog.replay scene (callsAt calls (startOrder calls schedule scene))

/-! ## The order of first turns -/

/-- The calls in front of a given one, once those that fail a test are left out. -/
theorem filter_takeWhile_ne {l earlier later : List Nat} {i : Nat} {p : Nat → Bool}
    (hl : l.Nodup) (h : l.filter p = earlier ++ i :: later) :
    (l.takeWhile (· ≠ i)).filter p = earlier := by
  -- `i` stands in the list behind `front`, where `earlier` comes from, and `gap`, which fails
  obtain ⟨front, back, rfl, rfl, hback⟩ := List.filter_eq_append_iff.mp h
  obtain ⟨gap, rest, rfl, hgap, -, -⟩ := List.filter_eq_cons_iff.mp hback
  have hnot : ∀ j ∈ front ++ gap, j ≠ i := by
    rintro j hj rfl
    rw [← List.append_assoc, List.nodup_append] at hl
    exact hl.2.2 j hj j List.mem_cons_self rfl
  have htake : (front ++ (gap ++ i :: rest)).takeWhile (· ≠ i) = front ++ gap := by
    rw [← List.append_assoc, List.takeWhile_append_of_pos (by simpa using hnot)]
    simp
  rw [htake, List.filter_append, List.filter_eq_nil_iff.mpr hgap, List.append_nil]

/-! ## Changes that are refused at once -/

/-- Whether a call asks for the lock of its scene at all. -/
def engages (calls : List (Change × Timestamp)) (i : Nat) : Bool :=
  calls[i]?.any fun call => (call.1.plan call.2).isOk

variable {calls : List (Change × Timestamp)} {i : Nat} {call : Change × Timestamp}

theorem asking_of_engages (hc : calls[i]? = some call) (h : engages calls i = true) :
    Running.Asking call.1.scene (call.1.run call.2 : Work ChangeReply) := by
  simp only [engages, hc, Option.any_some] at h
  rw [Change.run_eq]
  cases hp : call.1.plan call.2 with
  | error e =>
    rw [hp] at h
    cases h
  | ok effect => exact changeScene_asking _ _

theorem free_of_not_engages (hc : calls[i]? = some call) (h : engages calls i = false) :
    Running.Free (call.1.run call.2 : Work ChangeReply) := by
  simp only [engages, hc, Option.any_some] at h
  rw [Change.run_eq]
  cases hp : call.1.plan call.2 with
  | error e => exact trivial
  | ok effect =>
    rw [hp] at h
    cases h

/-- Calls that ask for no lock leave no trace. -/
theorem replay_engages (catalog : Catalog) (calls : List (Change × Timestamp)) (scene : Uuid)
    (order : List Nat) :
    catalog.replay scene (callsAt calls (order.filter (engages calls))) =
      catalog.replay scene (callsAt calls order) := by
  unfold Catalog.replay callsAt
  generalize catalog.records scene = stored
  induction order generalizing stored with
  | nil => rfl
  | cons i order ih =>
    cases hc : calls[i]? with
    | none =>
      have he : engages calls i = false := by simp [engages, hc]
      rw [List.filter_cons_of_neg (by simp [he]), List.filterMap_cons_none hc, ih]
    | some call =>
      rw [List.filterMap_cons_some hc, List.foldl_cons]
      cases he : engages calls i with
      | true =>
        rw [List.filter_cons_of_pos he, List.filterMap_cons_some hc, List.foldl_cons, ih]
      | false =>
        obtain ⟨e, -, halone⟩ := Change.alone_of_free (free_of_not_engages hc he)
        rw [List.filter_cons_of_neg (by simp [he]), ih, halone]

end Workers
end SceneCatalog
