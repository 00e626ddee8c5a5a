import Mathlib.Logic.Function.Basic
import SceneCatalog.Proofs.Locks.Transcript
import SceneCatalog.Proofs.Sql.Kept
import SceneCatalog.Sql.Constraints

/-!
Records written to the database and read back. Main statement: over a database that keeps the rules
of its tables, records of different fingerprints that replace those of a scene are all inserted, and
a load gives them back in their order and as they were, but for what their times have below a
microsecond; what is loaded for any other scene stays what it was.
-/
namespace SceneCatalog.Sql

/-! ## What work comes to -/

section Comes

variable {σ α β : Type} {respond : (s : Statement) → σ → s.Reply × σ}

/-- Work that starts in one state has this result and leaves this state. -/
def Comes (respond : (s : Statement) → σ → s.Reply × σ) (work : ExceptT StoreError Talk α)
    (state : σ) (result : Except StoreError α) (final : σ) : Prop :=
  let t := Running.transcript respond work.run state
  t.result = result ∧ t.state = final

theorem comes_done (a : α) (state : σ) :
    Comes respond (pure a : ExceptT StoreError Talk α) state (.ok a) state := ⟨rfl, rfl⟩

theorem run_query (s : Statement) :
    (query s).run = .ask (.call s) fun
      | .ok rows => .done (.ok rows)
      | .error text => .done (.error (.query text)) := by
  refine congrArg (Dialogue.ask (Ask.call s)) (funext fun reply => ?_)
  cases reply <;> rfl

theorem comes_query {s : Statement} {state final : σ} {rows : s.Rows}
    (h : respond s state = (.ok rows, final)) : Comes respond (query s) state (.ok rows) final := by
  rw [Comes, run_query]
  simp [Running.transcript, h]

theorem Comes.bind {work : ExceptT StoreError Talk α} {next : α → ExceptT StoreError Talk β}
    {state middle final : σ} {a : α} {result : Except StoreError β}
    (h : Comes respond work state (.ok a) middle)
    (after : Comes respond (next a) middle result final) :
    Comes respond (work >>= next) state result final := by
  obtain ⟨hresult, hstate⟩ := h
  have hbind := transcript_bind respond work.run (ExceptT.bindCont next) state
  simp only [hresult, hstate] at hbind
  have hrun : (work >>= next).run = Dialogue.bind work.run (ExceptT.bindCont next) := rfl
  rw [Comes, hrun, hbind]
  exact after

end Comes

/-! ## Writing rows of a scene -/

namespace Database

variable {db : Database} {i : Nat} {refusal : Constraint → String} {scene : Uuid}
  {mine : List RecordEntry}

theorem view_write (db : Database) (i : Nat) (w : Write) :
    (db.write i w).view i = (db.view i).writeAll [w] := by
  cases h : db.transactions i with
  | none => simp [write, view, h]
  | some t =>
    have hset : (db.write i w).transactions i = some { t with writes := t.writes ++ [w] } := by
      simp [write, h, setTransaction]
    have htables : (db.write i w).tables = db.tables := by simp [write, h, setTransaction]
    simp [view, h, hset, htables, Tables.writeAll]

theorem nextId_write (db : Database) (i : Nat) (w : Write) :
    (db.write i w).nextId = db.nextId := by
  unfold Database.write
  split <;> rfl

/-- The rows that a connection sees have numbers of their own, and numbers that are to come are
greater. -/
structure Numbered (db : Database) (i : Nat) : Prop where
  distinct : ((db.view i).records.map (·.id)).Nodup
  used : ∀ e ∈ (db.view i).records, e.id < db.nextId

/-- A row is found by its number. -/
theorem Numbered.find? (h : Numbered db i) {e : RecordEntry} (he : e ∈ (db.view i).records) :
    (db.view i).records.find? (fun other => other.id = e.id) = some e := by
  cases hfind : (db.view i).records.find? (fun other => other.id = e.id) with
  | none => exact absurd (decide_eq_true rfl) (List.find?_eq_none.mp hfind e he)
  | some other =>
    have hid : other.id = e.id := by simpa using List.find?_some hfind
    rw [List.inj_on_of_nodup_map h.distinct (List.mem_of_find?_eq_some hfind) he hid]

/-- So every number belongs to one scene. -/
theorem Numbered.owned (h : Numbered db i) :
    ∃ owner, Owned owner db.nextId (db.view i).records := by
  refine ⟨fun id => (((db.view i).records.find? (·.id = id)).map (·.scene)).getD (.ofNat 0),
    fun e he => ⟨h.used e he, ?_⟩⟩
  dsimp only
  rw [h.find? he]
  rfl

/-- A connection has written the rows `mine` of a scene, their numbers in order; every other row it
sees as before. -/
structure Replacing (i : Nat) (scene : Uuid) (before : Tables) (mine : List RecordEntry)
    (db : Database) : Prop where
  numbered : Numbered db i
  scenes : (db.view i).scenes = before.scenes
  rows : (db.view i).of scene = mine
  others : ∀ other, other ≠ scene → (db.view i).of other = before.of other
  ascending : mine.Pairwise fun a b => a.id < b.id

/-- A write of rows of the scene. -/
theorem Replacing.write {before : Tables} {db' : Database} {w : Write} {owner : Owner} {next : Int}
    (h : Replacing i scene before mine db) (hview : db'.view i = (db.view i).writeAll [w])
    (numbered : Numbered db' i) (owned : Owned owner next (db.view i).records)
    (of : w.Of owner next scene) (ascending : (w.apply mine).Pairwise fun a b => a.id < b.id) :
    Replacing i scene before (w.apply mine) db' := by
  refine ⟨numbered, ?_, ?_, fun other hne => ?_, ascending⟩
  · rw [hview]
    exact h.scenes
  · rw [hview, ← h.rows]
    exact ofScene_apply of
  · rw [hview, ← h.others other hne]
    exact ofScene_apply_of_ne owned of hne

theorem Replacing.mem (h : Replacing i scene before mine db) {e : RecordEntry} :
    e ∈ mine ↔ e ∈ (db.view i).records ∧ e.scene = scene := by
  rw [← h.rows, Tables.of, List.mem_filter, decide_eq_true_iff]

theorem checked_of_kept {s : Statement} (h : db.broken? i s = none) :
    checked refusal i s db = db.answer i s := by rw [checked, h]

/-- The rows of the scene are deleted. -/
theorem replacing_delete (refusal : Constraint → String) (numbered : Numbered db i)
    (scene : Uuid) :
    ∃ db', checked refusal i (.deleteRecords scene) db = (.ok (), db') ∧
      Replacing i scene (db.view i) [] db' := by
  let ids := ((db.view i).of scene).map (·.id)
  refine ⟨db.write i (.remove ids), rfl, ?_⟩
  obtain ⟨owner, owned⟩ := numbered.owned
  have hview := view_write db i (.remove ids)
  have hrecords : ((db.write i (.remove ids)).view i).records =
      (db.view i).records.filter fun e => !ids.contains e.id := by rw [hview]; rfl
  have hof : Write.Of owner db.nextId scene (.remove ids) := by
    intro id hid
    obtain ⟨e, he, rfl⟩ := List.mem_map.mp hid
    obtain ⟨hmem, hscene⟩ := List.mem_filter.mp he
    obtain ⟨hlt, ho⟩ := owned e hmem
    exact ⟨hlt, ho.trans (of_decide_eq_true hscene)⟩
  have hnone : Write.apply ((db.view i).of scene) (.remove ids) = [] := by
    refine List.filter_eq_nil_iff.mpr fun e he => ?_
    have hmem : e.id ∈ ids := List.mem_map_of_mem he
    simp [hmem]
  have hnumbered : Numbered (db.write i (.remove ids)) i := by
    refine ⟨?_, ?_⟩
    · rw [hrecords]
      exact numbered.distinct.sublist (List.filter_sublist.map _)
    · rw [hrecords, nextId_write]
      exact fun e he => numbered.used e (List.mem_of_mem_filter he)
  refine ⟨hnumbered, by rw [hview]; rfl, ?_, fun other hne => ?_, List.Pairwise.nil⟩
  · rw [hview, ← hnone]
    exact ofScene_apply hof
  · rw [hview]
    exact ofScene_apply_of_ne owned hof hne

/-- A row is inserted for a record. -/
theorem Replacing.insert {before : Tables} (h : Replacing i scene before mine db)
    (known : before.scenes.any (·.id = scene) = true) (record : Record)
    (new : ∀ e ∈ mine, e.row.algorithm = record.fingerprint.algorithm.name →
      e.row.hash ≠ record.fingerprint.hash) :
    ∃ db', checked refusal i (.insertRecord scene record) db = (.ok db.nextId, db') ∧
      (∀ e ∈ mine, e.id < db.nextId) ∧
      Replacing i scene before (mine ++ [⟨db.nextId, scene, .inserted record⟩]) db' := by
  let entry : RecordEntry := ⟨db.nextId, scene, .inserted record⟩
  have last : ∀ e ∈ mine, e.id < db.nextId := fun e he => h.numbered.used e (h.mem.mp he).1
  have hkept : (db.view i).broken? (.insert entry) = none := by
    have halgorithm : (Algorithm.all.map (·.name)).contains entry.row.algorithm = true := by
      have hname : entry.row.algorithm = record.fingerprint.algorithm.name := rfl
      rw [hname]
      cases record.fingerprint.algorithm <;> decide
    have hduration : ¬ entry.row.duration < 0 := Int.not_lt.mpr (Int.natCast_nonneg _)
    have hnumber : ¬ ((db.view i).records.any fun other => other.id = entry.id) = true := by
      rw [List.any_eq_true]
      rintro ⟨e, he, hid⟩
      exact absurd (of_decide_eq_true hid) (Int.ne_of_lt (h.numbered.used e he))
    have hfingerprint : ¬ (((db.view i).of entry.scene).any fun other =>
        other.row.algorithm = entry.row.algorithm ∧ other.row.hash = entry.row.hash) = true := by
      rw [List.any_eq_true]
      rintro ⟨e, he, hsame⟩
      obtain ⟨halg, hhash⟩ := of_decide_eq_true hsame
      exact new e (h.rows ▸ he) halg hhash
    have hscene : ((db.view i).scenes.any fun s => s.id = entry.scene) = true := h.scenes ▸ known
    simp only [Tables.broken?, halgorithm, hduration, hnumber, hfingerprint, hscene, Bool.not_true,
      if_false, if_true, Bool.false_eq_true]
  have hview : (db.insertRecord i scene record).view i = (db.view i).writeAll [.insert entry] :=
    view_write db i (.insert entry)
  have hrecords : ((db.insertRecord i scene record).view i).records =
      (db.view i).records ++ [entry] := by rw [hview]; rfl
  have hnext : (db.insertRecord i scene record).nextId = db.nextId + 1 := rfl
  have hnumbered : Numbered (db.insertRecord i scene record) i := by
    constructor
    · rw [hrecords, List.map_append, List.nodup_append]
      refine ⟨h.numbered.distinct, List.nodup_singleton _, fun id hid id' hid' => ?_⟩
      obtain ⟨e, he, rfl⟩ := List.mem_map.mp hid
      rw [List.mem_singleton.mp hid']
      exact Int.ne_of_lt (h.numbered.used e he)
    · rw [hrecords, hnext]
      intro e he
      rcases List.mem_append.mp he with he | he
      · exact Int.lt_add_one_of_le (Int.le_of_lt (h.numbered.used e he))
      · rw [List.mem_singleton.mp he]
        exact Int.lt_add_one_of_le (Int.le_refl _)
  -- the new number belongs to nobody yet, and from now on to the scene
  obtain ⟨owner, owned⟩ := h.numbered.owned
  have howned : Owned (Function.update owner db.nextId scene) (db.nextId + 1)
      (db.view i).records :=
    owned.mono (Int.le_of_lt (Int.lt_add_one_of_le (Int.le_refl _))) fun id hlt =>
      Function.update_of_ne (Int.ne_of_lt hlt) scene owner
  have hof : Write.Of (Function.update owner db.nextId scene) (db.nextId + 1) scene
      (.insert entry) :=
    ⟨Int.lt_add_one_of_le (Int.le_refl _), Function.update_self .., rfl⟩
  refine ⟨db.insertRecord i scene record, checked_of_kept hkept, last, ?_⟩
  exact h.write hview hnumbered howned hof (ascending_snoc h.ascending last)

/-- The users of the record are inserted for the row that was inserted last. -/
theorem Replacing.join {before : Tables} {id : Int} {row : RecordRow} {users : List Uuid}
    (last : ∀ e ∈ mine, e.id < id)
    (h : Replacing i scene before (mine ++ [⟨id, scene, row⟩]) db)
    (fresh : (row.submitters ++ users).Nodup) :
    ∃ db', checked refusal i (.insertSubmitters id users) db = (.ok (), db') ∧
      Replacing i scene before (mine ++ [⟨id, scene, row.withUsers users⟩]) db' := by
  let entry : RecordEntry := ⟨id, scene, row⟩
  have hmem : entry ∈ (db.view i).records :=
    (h.mem.mp (List.mem_append_right _ (List.mem_singleton.mpr rfl))).1
  have hkept : (db.view i).broken? (.join id users) = none := by
    have hfind : (db.view i).records.find? (fun e => e.id = id) = some entry :=
      h.numbered.find? hmem
    simp only [Tables.broken?, hfind]
    exact if_pos fresh
  have hview := view_write db i (.join id users)
  have hrecords : ((db.write i (.join id users)).view i).records =
      (db.view i).records.map (.join id users) := by rw [hview]; rfl
  have hnumbered : Numbered (db.write i (.join id users)) i := by
    constructor
    · rw [hrecords, List.map_map]
      simpa only [Function.comp_def, RecordEntry.id_join] using h.numbered.distinct
    · rw [hrecords, nextId_write]
      intro e he
      obtain ⟨e', he', rfl⟩ := List.mem_map.mp he
      simpa using h.numbered.used e' he'
  obtain ⟨owner, owned⟩ := h.numbered.owned
  have hof : Write.Of owner db.nextId scene (.join id users) := owned entry hmem
  have hjoin : Write.apply (mine ++ [entry]) (.join id users) =
      mine ++ [⟨id, scene, row.withUsers users⟩] := map_join_snoc last scene row users
  refine ⟨db.write i (.join id users), checked_of_kept hkept, ?_⟩
  rw [← hjoin]
  refine h.write hview hnumbered owned hof ?_
  rw [hjoin]
  exact ascending_snoc (List.pairwise_append.mp h.ascending).1 last

/-! ## Replacing the records of a scene -/

theorem comes_insertRecords {before : Tables} (known : before.scenes.any (·.id = scene) = true)
    (records : List Record) (short : ∀ r ∈ records, r.duration.toNat ≤ maxDuration)
    (distinct : (records.map (·.fingerprint)).Nodup) (h : Replacing i scene before mine db)
    (new : ∀ r ∈ records, ∀ e ∈ mine, e.row.algorithm = r.fingerprint.algorithm.name →
      e.row.hash ≠ r.fingerprint.hash) :
    ∃ db' mine', Comes (checked refusal i) (insertRecords scene records) db (.ok ()) db' ∧
      Replacing i scene before mine' db' ∧
      mine'.map RecordEntry.shown = mine.map RecordEntry.shown ++ records.map .saved := by
  induction records generalizing db mine with
  | nil => exact ⟨db, mine, comes_done () db, h, (List.append_nil _).symm⟩
  | cons r records ih =>
    obtain ⟨hr, hshort⟩ := List.forall_mem_cons.mp short
    obtain ⟨hnew, hnewRest⟩ := List.forall_mem_cons.mp new
    rw [List.map_cons, List.nodup_cons] at distinct
    obtain ⟨db₁, hinsert, last, h₁⟩ := h.insert known r hnew
    have fresh : ((RecordRow.inserted r).submitters ++ r.submitters.toList).Nodup :=
      r.submitters.nodup
    obtain ⟨db₂, hjoin, h₂⟩ := h₁.join last fresh
    -- the row that was inserted is not for a fingerprint that is still to come
    have hnew₂ : ∀ r' ∈ records, ∀ e ∈ mine ++ [(⟨db.nextId, scene,
        (RecordRow.inserted r).withUsers r.submitters.toList⟩ : RecordEntry)],
        e.row.algorithm = r'.fingerprint.algorithm.name → e.row.hash ≠ r'.fingerprint.hash := by
      intro r' hr' e he
      rcases List.mem_append.mp he with he | he
      · exact hnewRest r' hr' e he
      · rw [List.mem_singleton.mp he]
        intro halgorithm hhash
        refine distinct.1 ?_
        rw [Fingerprint.eq_of_name halgorithm hhash]
        exact List.mem_map_of_mem hr'
    obtain ⟨db', mine', hrest, h', hshown⟩ := ih hshort distinct.2 h₂ hnew₂
    refine ⟨db', mine', ?_, h', ?_⟩
    · have hlong : ¬ maxDuration < r.duration.toNat := Nat.not_lt.mpr hr
      simp only [insertRecords, hlong, if_false]
      exact (comes_query hinsert).bind ((comes_query hjoin).bind hrest)
    · rw [hshown, List.map_append, List.append_assoc]
      rfl

theorem comes_loadRecords (refusal : Constraint → String) (db : Database) (i : Nat) (scene : Uuid) :
    Comes (checked refusal i) (loadRecords scene) db
      (((db.view i).recordRows scene).mapM RecordRow.toRecord) db := by
  have hquery : Comes (checked refusal i) (query (.loadRecords scene)) db
      (.ok ((db.view i).recordRows scene)) db := comes_query rfl
  exact hquery.bind ⟨rfl, rfl⟩

/-- **What is written is read back.** Records of different fingerprints, none of them too long, are
saved for a scene that is there, whatever rows it had; they are loaded in the same order, and what
is loaded for any other scene is what was loaded before. -/
theorem reads_back (refusal : Constraint → String) (db : Database) (i : Nat)
    (numbered : Numbered db i) (scene : Uuid)
    (known : (db.view i).scenes.any (·.id = scene) = true) (records : List Record)
    (distinct : (records.map (·.fingerprint)).Nodup)
    (short : ∀ r ∈ records, r.duration.toNat ≤ maxDuration) :
    ∃ db' kept, Comes (checked refusal i) (replaceRecords scene records) db (.ok ()) db' ∧
      Comes (checked refusal i) (loadRecords scene) db' (.ok kept) db' ∧
      List.Forall₂ KeptRecord records kept ∧
      ∀ other, other ≠ scene → ∃ result,
        Comes (checked refusal i) (loadRecords other) db result db ∧
          Comes (checked refusal i) (loadRecords other) db' result db' := by
  obtain ⟨deleted, hdelete, hnone⟩ := replacing_delete refusal numbered scene
  obtain ⟨db', mine, hinsert, hmine, hshown⟩ :=
    comes_insertRecords known records short distinct hnone fun _ _ _ he => nomatch he
  have hrows : (db'.view i).recordRows scene = records.map .saved := by
    rw [Tables.recordRows, hmine.rows, loaded_of_ascending hmine.ascending, hshown]
    rfl
  have hload := comes_loadRecords refusal db' i scene
  rw [hrows, mapM_toRecord_saved] at hload
  refine ⟨db', records.map reread, (comes_query hdelete).bind hinsert, hload, ?_, ?_⟩
  · rw [List.forall₂_map_right_iff]
    exact List.forall₂_same.mpr fun r _ => keptRecord_reread r
  · intro other hne
    refine ⟨_, comes_loadRecords refusal db i other, ?_⟩
    have hother : (db'.view i).recordRows other = (db.view i).recordRows other :=
      congrArg loaded (hmine.others other hne)
    rw [← hother]
    exact comes_loadRecords refusal db' i other

/-- Two scenes with a row each, the number of the next row, and nobody connected. -/
def twoScenes : Database :=
  let row (hash : String) : RecordRow := ⟨"OSHASH", hash, 60, ⟨1, 0⟩, ⟨1, 0⟩, [.ofNat 1]⟩
  atRest (fun _ _ => false)
    { scenes := [⟨.ofNat 1, none, none, ⟨0, 0⟩⟩, ⟨.ofNat 2, none, none, ⟨0, 0⟩⟩]
      performers := []
      tags := []
      records := [⟨4, .ofNat 1, row "00ff00ff00ff00ff"⟩, ⟨7, .ofNat 2, row "ff00ff00ff00ff00"⟩] } 8

theorem reads_back_twoScenes :
    ∃ records : List Record, records.length = 2 ∧ ∃ db' kept,
      Comes (checked (fun _ => "") 0) (replaceRecords (.ofNat 1) records) twoScenes (.ok ()) db' ∧
        Comes (checked (fun _ => "") 0) (loadRecords (.ofNat 1)) db' (.ok kept) db' ∧
        List.Forall₂ KeptRecord records kept := by
  let record (f : Fingerprint) : Record := .ofUser ⟨f, 60⟩ (.ofNat 3) ⟨1700000000, 123456789⟩
  let records := [record ⟨.oshash, "0123456789abcdef", by decide⟩, record .sample]
  have numbered : Numbered twoScenes 0 := ⟨by decide, by decide⟩
  obtain ⟨db', kept, hsave, hload, hkept, -⟩ := reads_back (fun _ => "") twoScenes 0 numbered
    (.ofNat 1) (by decide) records (by decide) (by decide)
  exact ⟨records, rfl, db', kept, hsave, hload, hkept⟩

end Database
end SceneCatalog.Sql
