import Mathlib.Data.List.Sort
import SceneCatalog.Proofs.Consensus.Plan
import SceneCatalog.Proofs.Sql.Rows
import SceneCatalog.Replicas

/-!
The course that a change takes on a database, told from what it sees of its scene. Before its
transaction it learns no more than whether the scene is known; in it, it sees the rows of the scene
as they were when it took the lock of the scene, and its own writes. `Change.onRows` says what a
change makes of the rows of its scene, and a change takes a course to just that.
-/
namespace SceneCatalog.Sql

/-! ## What a change makes of rows -/

/-- The row that is given back for a record once its users have been inserted. -/
def RecordRow.saved (record : Record) : RecordRow :=
  { RecordRow.inserted record with
    submitters := record.submitters.toList.mergeSort fun u v => decide (u ≤ v) }

/-- Whether the database cannot hold the duration of a record. -/
def tooLong (record : Record) : Bool := decide (maxDuration < record.duration.toNat)

/-- Why a record that is too long is not inserted. -/
def tooLongError (record : Record) : StoreError :=
  .serialization s!"duration {record.duration} too large"

/-- The result of an effect and the rows of the scene afterwards, given the rows before. -/
def onRows {α : Type} (known : Bool) (scene : Uuid) (effect : SceneFingerprints → Effect α)
    (rows : List RecordRow) : Except CatalogError α × List RecordRow :=
  if !known then (.error (.sceneNotFound scene), rows)
  else
    match rows.mapM RecordRow.toRecord with
    | .error e => (.error (.store e), rows)
    | .ok stored =>
      match effect (.ofRecords stored) with
      | .error e => (.error e, rows)
      | .ok (result, none) => (.ok result, rows)
      | .ok (result, some after) =>
        match after.records.find? tooLong with
        | some record => (.error (.store (tooLongError record)), rows)
        | none => (.ok result, after.records.map .saved)

/-! ## Courses -/

/-- A call whose transaction has ended gives its lock back and has this result. -/
def Talk.Settles {α : Type} (result : α) : Talk α → Prop
  | .done a => a = result
  | .ask (.release _) next => Settles result (next ())
  | _ => False

/-- Going on in its transaction, where it sees the rows `mine` of its scene and the rows `base` are
committed, a call makes `final` of the committed rows and has this result. -/
def Talk.Leads {α : Type} (scene : Uuid) (result : α) (final base : List RecordRow) :
    Talk α → List RecordEntry → Prop
  | .ask (.release _) next, mine => Leads scene result final base (next ()) mine
  | .ask (.call (.loadRecords s)) next, mine =>
    s = scene ∧ Leads scene result final base (next (.ok (loaded mine))) mine
  | .ask (.call (.deleteRecords s)) next, _ =>
    s = scene ∧ Leads scene result final base (next (.ok ())) []
  | .ask (.call (.insertRecord s record)) next, mine =>
    s = scene ∧ ∀ id, (∀ e ∈ mine, e.id < id) →
      Leads scene result final base (next (.ok id)) (mine ++ [⟨id, scene, .inserted record⟩])
  | .ask (.call (.insertSubmitters id users)) next, mine =>
    (∃ e ∈ mine, e.id = id) ∧
      Leads scene result final base (next (.ok ())) (mine.map (.join id users))
  | .ask (.call .commit) next, mine => loaded mine = final ∧ Settles result (next (.ok ()))
  | .ask (.call .rollback) next, _ => base = final ∧ Settles result (next (.ok ()))
  | _, _ => False

/-- A call that has begun its transaction takes the lock of the row of its scene, and makes of the
rows that it then finds what `outcome` says. -/
def Talk.Locks {α : Type} (scene : Uuid) (outcome : List RecordRow → α × List RecordRow) :
    Talk α → Prop
  | .ask (.call (.lockScene s)) next =>
    s = scene ∧ ∀ entries, Leads scene (outcome (loaded entries)).1 (outcome (loaded entries)).2
      (loaded entries) (next (.ok ())) entries
  | _ => False

theorem Talk.Locks.ask {α : Type} {scene : Uuid} {outcome : List RecordRow → α × List RecordRow}
    {d : Talk α} (h : Talk.Locks scene outcome d) :
    ∃ next, d = .ask (.call (.lockScene scene)) next ∧ ∀ entries,
      Talk.Leads scene (outcome (loaded entries)).1 (outcome (loaded entries)).2 (loaded entries)
        (next (.ok ())) entries := by
  cases d with
  | done a => exact absurd h id
  | ask q next =>
    cases q with
    | acquire s => exact absurd h id
    | release s => exact absurd h id
    | call c =>
      cases c with
      | lockScene s =>
        obtain ⟨rfl, leads⟩ := h
        exact ⟨next, rfl, leads⟩
      | _ => exact absurd h id

/-- A call that has not begun its transaction begins one, or has the same result whatever the rows
are. -/
def Talk.Opens {α : Type} (scene : Uuid) (known : Bool)
    (outcome : List RecordRow → α × List RecordRow) : Talk α → Prop
  | .done a => ∀ rows, outcome rows = (a, rows)
  | .ask (.acquire _) next => Opens scene known outcome (next ())
  | .ask (.release _) next => Opens scene known outcome (next ())
  | .ask (.call (.sceneExists s)) next =>
    s = scene ∧ Opens scene known outcome (next (.ok known))
  | .ask (.call .beginTx) next => known = true ∧ Locks scene outcome (next (.ok ()))
  | _ => False

/-! ## Rows by number -/

/-- Rows whose numbers grow are given back as they stand. -/
theorem loaded_of_ascending {entries : List RecordEntry}
    (h : entries.Pairwise fun a b => a.id < b.id) :
    loaded entries = entries.map RecordEntry.shown := by
  rw [loaded, List.mergeSort_of_pairwise]
  exact h.imp fun hlt => decide_eq_true (Int.le_of_lt hlt)

theorem ascending_snoc {mine : List RecordEntry} (h : mine.Pairwise fun a b => a.id < b.id)
    {e : RecordEntry} (last : ∀ a ∈ mine, a.id < e.id) :
    (mine ++ [e]).Pairwise fun a b => a.id < b.id :=
  List.pairwise_append.mpr ⟨h, List.pairwise_singleton _ _, fun a ha _ hb =>
    List.mem_singleton.mp hb ▸ last a ha⟩

/-- The users of the row that was inserted last go to no other row. -/
theorem map_join_snoc {mine : List RecordEntry} {id : Int} (last : ∀ e ∈ mine, e.id < id)
    (scene : Uuid) (row : RecordRow) (users : List Uuid) :
    (mine ++ [(⟨id, scene, row⟩ : RecordEntry)]).map (.join id users) =
      mine ++ [⟨id, scene, row.withUsers users⟩] := by
  have hmine : mine.map (RecordEntry.join id users) = mine := by
    refine (List.map_congr_left fun e he => ?_).trans (List.map_id _)
    exact RecordEntry.join_of_ne (Int.ne_of_lt (last e he)) users
  rw [List.map_append, hmine, List.map_singleton, RecordEntry.join, if_pos rfl]

/-! ## A change takes its course -/

section Ends

variable {α : Type} (scene : Uuid) (base : List RecordRow) (mine : List RecordEntry)

theorem abandon_leads (result : Except CatalogError α) :
    Talk.Leads scene result base base
      (Prod.fst <$> (abandon scene result).carriedBy converseAbout true) mine :=
  ⟨rfl, rfl⟩

theorem leave_leads (result : Except CatalogError α) :
    Talk.Leads scene result base base
      (Prod.fst <$> (leave scene result).carriedBy converseAbout true) mine :=
  ⟨rfl, rfl⟩

end Ends

/-- Inserting records comes to an error at the first that is too long, and otherwise adds a row for
each of them. -/
theorem insertRecords_leads {α : Type} {scene : Uuid} {result : α} {final base : List RecordRow}
    (goOn : Except StoreError Unit → Talk α) (records : List Record) (mine : List RecordEntry)
    (ascending : mine.Pairwise fun a b => a.id < b.id)
    (refused : ∀ record mine', records.find? tooLong = some record →
      Talk.Leads scene result final base (goOn (.error (tooLongError record))) mine')
    (inserted : ∀ mine', records.find? tooLong = none →
      loaded mine' = loaded mine ++ records.map .saved →
        Talk.Leads scene result final base (goOn (.ok ())) mine') :
    Talk.Leads scene result final base ((insertRecords scene records).run.bind goOn) mine := by
  induction records generalizing mine with
  | nil => exact inserted mine rfl (List.append_nil _).symm
  | cons record records ih =>
    by_cases h : maxDuration < record.duration.toNat
    · have hlong : tooLong record = true := decide_eq_true h
      simp only [insertRecords, h, if_true]
      exact refused record mine (List.find?_cons_of_pos hlong)
    · have hlong : ¬ tooLong record = true := fun ht => h (of_decide_eq_true ht)
      have hfind : (record :: records).find? tooLong = records.find? tooLong :=
        List.find?_cons_of_neg hlong
      rw [hfind] at refused inserted
      simp only [insertRecords, h, if_false]
      refine ⟨rfl, fun id last => ⟨⟨_, List.mem_append_right _ List.mem_cons_self, rfl⟩, ?_⟩⟩
      rw [map_join_snoc last]
      have hascending := ascending_snoc ascending
        (e := ⟨id, scene, (RecordRow.inserted record).withUsers record.submitters.toList⟩) last
      refine ih _ hascending refused fun mine' hnone hloaded => inserted mine' hnone ?_
      rw [hloaded, loaded_of_ascending hascending, loaded_of_ascending ascending, List.map_append,
        List.append_assoc]
      rfl

section Changes

variable {α : Type} (scene : Uuid) (effect : SceneFingerprints → Effect α)

/-- Saving a collection leaves its records, or nothing if one of them is too long. -/
theorem conclude_leads (base : List RecordRow) (mine : List RecordEntry)
    (after : SceneFingerprints) (result : α) {outcome : Except CatalogError α × List RecordRow}
    (h : outcome = match after.records.find? tooLong with
      | some record => (.error (.store (tooLongError record)), base)
      | none => (.ok result, after.records.map .saved)) :
    Talk.Leads scene outcome.1 outcome.2 base
      (Prod.fst <$> (conclude scene after result).carriedBy converseAbout true) mine := by
  refine ⟨rfl, ?_⟩
  dsimp only [Dialogue.bind, ExceptT.bindCont, ExceptT.mk, pure, ExceptT.pure, Function.comp]
  rw [Dialogue.bind_assoc, Dialogue.bind_assoc]
  refine insertRecords_leads _ after.records [] List.Pairwise.nil ?_ ?_
  · intro record mine' hfind
    rw [hfind] at h
    subst h
    exact abandon_leads scene base mine' _
  · intro mine' hnone hloaded
    rw [hnone] at h
    subst h
    rw [loaded_of_ascending List.Pairwise.nil, List.map_nil, List.nil_append] at hloaded
    exact ⟨hloaded, rfl⟩

/-- **The course of a change of a scene.** -/
theorem changeScene_opens (known : Bool) :
    Talk.Opens scene known (onRows known scene effect)
      (Prod.fst <$> converse (changeScene scene effect)) := by
  cases known with
  | false => exact ⟨rfl, fun rows => rfl⟩
  | true =>
    refine ⟨rfl, rfl, rfl, fun entries => ⟨rfl, ?_⟩⟩
    -- what comes next depends on whether the rows can be read, and then on the effect
    dsimp only [Dialogue.bind, ExceptT.bindCont, ExceptT.mk, pure, ExceptT.pure, Function.comp]
    simp only [onRows, Bool.not_true, Bool.false_eq_true, if_false]
    cases (loaded entries).mapM RecordRow.toRecord with
    | error e => exact abandon_leads scene _ entries _
    | ok stored =>
      dsimp only
      cases effect (.ofRecords stored) with
      | error e => exact leave_leads scene _ entries _
      | ok outcome =>
        obtain ⟨result, after | after⟩ := outcome
        · exact leave_leads scene _ entries _
        · exact conclude_leads scene _ entries after result rfl

end Changes

end SceneCatalog.Sql

namespace SceneCatalog

/-- The reply to a change and the rows of its scene afterwards, given whether the scene is known and
the rows before. -/
def Change.onRows (change : Change) (known : Bool) (now : Timestamp) (rows : List Sql.RecordRow) :
    Except CatalogError ChangeReply × List Sql.RecordRow :=
  match change.plan now with
  | .error e => (.error e, rows)
  | .ok effect => Sql.onRows known change.scene effect rows

theorem Change.talk_opens (change : Change) (known : Bool) (now : Timestamp) :
    Sql.Talk.Opens change.scene known (change.onRows known now) (change.talk now) := by
  unfold talk onRows
  rw [Change.run_eq]
  cases change.plan now with
  | error e => exact fun rows => rfl
  | ok effect => exact Sql.changeScene_opens change.scene effect known

end SceneCatalog
