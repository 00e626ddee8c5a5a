import SceneCatalog.Proofs.Consensus.Errors
import SceneCatalog.Proofs.Consensus.Reading
import SceneCatalog.Proofs.Consensus.Writes
import SceneCatalog.Proofs.Fingerprints.Merging
import SceneCatalog.Proofs.Sql.Kept
import SceneCatalog.Proofs.Sql.Plans
import SceneCatalog.Proofs.Sql.Transactions

/-!
Durations that a database holds. Records state any number of 32 bits as their duration, rows only
the numbers below half of that. A database at rest whose rows have such durations keeps them, and a
call of the catalog over it fails to save only where it states a greater duration itself.
-/
namespace SceneCatalog

/-! ## Durations of records -/

namespace SceneFingerprints

/-- Where records are brought together, no duration comes in that none of them has. -/
theorem exists_duration_ofRecords {stored : List Record} {r : Record}
    (h : r ∈ (ofRecords stored).records) : ∃ q ∈ stored, q.duration = r.duration := by
  obtain ⟨first, hfirst, hduration, -⟩ := (joins_ofRecords stored).first r h
  exact ⟨first, List.mem_of_find?_eq_some hfirst, hduration.symm⟩

end SceneFingerprints

/-- The durations that a change leaves were stored, or are stated by the change. -/
theorem Change.exists_duration {change : Change} {now : Timestamp}
    {effect : SceneFingerprints → Effect ChangeReply} (planned : change.plan now = .ok effect)
    {stored : List Record} {reply : ChangeReply} {after : SceneFingerprints}
    (h : effect (.ofRecords stored) = .ok (reply, some after)) {r : Record}
    (hr : r ∈ after.records) :
    (∃ q ∈ stored, q.duration = r.duration) ∨ ∃ f, change.stated? f = some r.duration := by
  obtain ⟨after', happlied, -, hsaved⟩ := Change.effect_spec planned h
  obtain rfl : after' = after := by
    split at hsaved
    · exact (Option.some.inj hsaved).symm
    · cases hsaved
  have hget := SceneFingerprints.get?_of_mem hr
  cases Change.evolves happlied r.fingerprint with
  | without gone => exact absurd (gone.symm.trans hget) nofun
  | found q r' before after duration =>
    obtain rfl : r' = r := Option.some.inj (after.symm.trans hget)
    obtain ⟨p, hp, hduration⟩ :=
      SceneFingerprints.exists_duration_ofRecords (List.mem_of_find?_eq_some before)
    exact Or.inl ⟨p, hp, hduration.trans duration.symm⟩
  | made r' before after duration =>
    obtain rfl : r' = r := Option.some.inj (after.symm.trans hget)
    exact Or.inr ⟨_, duration⟩

/-- A save has been refused for what the store cannot represent. -/
def Answered.FailsToSave (a : Answered StoreCall StoreCall.Reply) : Prop :=
  a.1.kind? = some .save ∧ ∃ text, a.1.refusal? a.2 = some (.serialization text)

/-- A change saves at most once, and then what its effect makes of what it has loaded. -/
theorem Course.of_save {α : Type} {scene : Uuid} {effect : SceneFingerprints → Effect α}
    {made : List (Answered StoreCall StoreCall.Reply)} {result : Except CatalogError α}
    {saved : Option SceneFingerprints} (h : Course scene effect made result saved)
    {a : Answered StoreCall StoreCall.Reply} (ha : a ∈ made) (save : a.1.kind? = some .save) :
    ∃ stored value after reply more, effect (.ofRecords stored) = .ok (value, some after) ∧
      made = ⟨.sceneExists scene, .ok true⟩ :: ⟨.txLoad scene, .ok stored⟩ ::
        ⟨.txSave scene after.records, reply⟩ :: more ∧
      a = ⟨.txSave scene after.records, reply⟩ := by
  have third : ∀ {stored records reply more},
      a ∈ ⟨.sceneExists scene, .ok true⟩ :: ⟨.txLoad scene, .ok stored⟩ ::
        ⟨.txSave scene records, reply⟩ :: more → (∀ b ∈ more, b.1.kind? ≠ some .save) →
          a = ⟨.txSave scene records, reply⟩ := by
    intro stored records reply more ha others
    rcases List.mem_cons.mp ha with rfl | ha
    · cases save
    rcases List.mem_cons.mp ha with rfl | ha
    · cases save
    rcases List.mem_cons.mp ha with rfl | ha
    · rfl
    · exact absurd save (others a ha)
  cases h with
  | unsaved h e =>
    exact ⟨_, _, _, .error e, _, h, rfl, third ha (by simp [StoreCall.kind?])⟩
  | uncommitted h e =>
    exact ⟨_, _, _, .ok (), _, h, rfl, third ha (by simp [StoreCall.kind?])⟩
  | written h => exact ⟨_, _, _, .ok (), _, h, rfl, third ha (by simp [StoreCall.kind?])⟩
  | _ =>
    simp only [List.mem_cons, List.not_mem_nil, or_false] at ha
    rcases ha with rfl | rfl | rfl <;> cases save

namespace Sql

/-! ## Durations of rows -/

/-- The database can hold the durations of rows. -/
def Fits (rows : List RecordRow) : Prop := ∀ row ∈ rows, row.duration ≤ maxDuration

theorem tooLong_eq_true_iff {r : Record} :
    tooLong r = true ↔ maxDuration < r.duration.toNat := decide_eq_true_iff

theorem fits_saved {records : List Record} (h : ∀ r ∈ records, tooLong r = false) :
    Fits (records.map .saved) := by
  intro row hrow
  obtain ⟨r, hr, rfl⟩ := List.mem_map.mp hrow
  have hshort : ¬ maxDuration < r.duration.toNat := by
    rw [← tooLong_eq_true_iff, h r hr]
    exact Bool.false_ne_true
  exact Int.ofNat_le.mpr (Nat.le_of_not_lt hshort)

/-- What a row stands for has its duration. -/
theorem duration_of_toRecord {row : RecordRow} {r : Record} (h : row.toRecord = .ok r) :
    r.duration = UInt32.ofNat row.duration.toNat := by
  unfold RecordRow.toRecord at h
  split at h
  · cases h
  split at h
  · cases h
  unfold Record.ofParts at h
  split at h
  · cases h
  · rename_i hparts
    split at hparts
    · cases hparts
    · cases hparts
      cases h
      rfl

theorem short_of_fits {rows : List RecordRow} (fits : Fits rows) {stored : List Record}
    (h : rows.mapM RecordRow.toRecord = .ok stored) : ∀ r ∈ stored, tooLong r = false := by
  induction rows generalizing stored with
  | nil =>
    cases h
    exact nofun
  | cons row rows ih =>
    rw [List.mapM_cons] at h
    obtain ⟨r, hr, h⟩ := of_bind_ok h
    obtain ⟨rest, hrest, h⟩ := of_bind_ok h
    cases h
    refine List.forall_mem_cons.mpr
      ⟨?_, ih (fun row hrow => fits row (List.mem_cons_of_mem _ hrow)) hrest⟩
    have hrow := fits row List.mem_cons_self
    have hmax : maxDuration = 2147483647 := rfl
    rw [Bool.eq_false_iff, Ne, tooLong_eq_true_iff, duration_of_toRecord hr,
      UInt32.toNat_ofNat_of_lt' (by simp only [UInt32.size]; omega)]
    omega

/-! ## A store on a database -/

section Store

variable {σ α : Type} {answer : (s : Statement) → σ → s.Reply × σ}

/-- A store on a database, as it answers one call after another; `answer` is the database. The flag
says whether the transaction of the scene that is worked on is open. -/
def storeOn (answer : (s : Statement) → σ → s.Reply × σ) (call : StoreCall) (state : σ × Bool) :
    call.Reply × (σ × Bool) :=
  let t := Running.transcript answer (carryOut call state.2) state.1
  (t.result.1, (t.state, t.result.2))

/-- Work over a store on a database is the conversation with the database. -/
theorem storeOn_transcript (answer : (s : Statement) → σ → s.Reply × σ)
    (work : Running StoreCall StoreCall.Reply α) (state : σ) (isOpen : Bool) :
    let t := Running.transcript (storeOn answer) work (state, isOpen)
    let u := Running.transcript answer (work.carriedBy converseAbout isOpen) state
    u.result = (t.result, t.state.2) ∧ u.state = t.state.1 := by
  induction work generalizing state isOpen with
  | done a => exact ⟨rfl, rfl⟩
  | ask q next ih =>
    cases q with
    | acquire scene => exact ih () state isOpen
    | release scene => exact ih () state isOpen
    | call c =>
      let goOn (answered : c.Reply × Bool) : Talk (α × Bool) :=
        (next answered.1).carriedBy converseAbout answered.2
      have hcarried : (Dialogue.ask (Ask.call c) next).carriedBy converseAbout isOpen =
          (carryOut c isOpen).bind goOn := rfl
      let answered := storeOn answer c (state, isOpen)
      obtain ⟨hresult, hstate⟩ := ih answered.1 answered.2.1 answered.2.2
      dsimp only
      rw [hcarried, transcript_bind]
      exact ⟨hresult, hstate⟩

/-- A change over a store on a database is the change as it is carried out on the database. -/
theorem talk_transcript (answer : (s : Statement) → σ → s.Reply × σ) (change : Change)
    (now : Timestamp) (state : σ) :
    let t := Running.transcript (storeOn answer) (change.run now) (state, false)
    let u := Running.transcript answer (change.talk now) state
    u.result = t.result ∧ u.state = t.state.1 := by
  obtain ⟨hresult, hstate⟩ := storeOn_transcript answer (change.run now) state false
  have htalk : change.talk now =
      (converse (change.run now)).bind fun answered => .done answered.1 := rfl
  dsimp only
  rw [htalk, transcript_bind]
  exact ⟨congrArg Prod.fst hresult, hstate⟩

/-- When a change is over, no transaction is open. -/
theorem course_closes {scene : Uuid} {effect : SceneFingerprints → Effect α}
    {made : List (Answered StoreCall StoreCall.Reply)} {result : Except CatalogError α}
    {saved : Option SceneFingerprints} {state : σ} {final : σ × Bool}
    (h : Course scene effect made result saved)
    (answers : Answers (storeOn answer) (state, false) made final) : final.2 = false := by
  have asks : ∀ state : σ, (storeOn answer (.sceneExists scene) (state, false)).2.2 = false :=
    fun state =>
      have flag : Talk.Ensures (carryOut (.sceneExists scene) false) fun _ a => a.2 = false := by
        rintro (text | known) <;> rfl
      flag.transcript answer state
  have drops : ∀ state : σ × Bool, (storeOn answer (.txDrop scene) state).2.2 = false := by
    rintro ⟨state, _ | _⟩ <;> rfl
  have commits : ∀ state : σ × Bool, (storeOn answer (.txCommit scene) state).2.2 = false := by
    rintro ⟨state, _ | _⟩
    · rfl
    · have flag : Talk.Ensures (carryOut (.txCommit scene) true) fun _ a => a.2 = false := by
        rintro (text | _)
        · exact fun _ => rfl
        · rfl
      exact flag.transcript answer state
  cases h with
  | unreachable e =>
    obtain ⟨-, rfl⟩ := answers
    exact asks state
  | unknown =>
    obtain ⟨-, rfl⟩ := answers
    exact asks state
  | unloaded e =>
    obtain ⟨-, -, -, rfl⟩ := answers
    exact drops _
  | refused h =>
    obtain ⟨-, -, -, rfl⟩ := answers
    exact drops _
  | unchanged h =>
    obtain ⟨-, -, -, rfl⟩ := answers
    exact drops _
  | unsaved h e =>
    obtain ⟨-, -, -, -, rfl⟩ := answers
    exact drops _
  | uncommitted h e =>
    obtain ⟨-, -, -, -, -, rfl⟩ := answers
    exact drops _
  | written h =>
    obtain ⟨-, -, -, -, rfl⟩ := answers
    exact commits _

/-- Records are not inserted for their durations only if one of them is too long. -/
theorem insertRecords_blames (scene : Uuid) (records : List Record) :
    Talk.Ensures (insertRecords scene records).run fun _ result =>
      ∀ text, result = .error (.serialization text) → ∃ r ∈ records, tooLong r = true := by
  induction records with
  | nil =>
    intro text h
    cases h
  | cons record records ih =>
    by_cases h : maxDuration < record.duration.toNat
    · simp only [insertRecords, h, if_true]
      exact fun _ _ => ⟨record, List.mem_cons_self, tooLong_eq_true_iff.mpr h⟩
    · simp only [insertRecords, h, if_false]
      -- what a query is refused for is no duration
      have refused : ∀ said text, (Except.error (.query said) : Except StoreError Unit) =
          .error (.serialization text) → ∃ r ∈ record :: records, tooLong r = true := by
        intro said text h
        cases h
      refine ensures_query refused fun id => ensures_query refused fun _ => ?_
      refine ih.mono fun made result hresult text htext => ?_
      obtain ⟨r, hr, hlong⟩ := hresult text htext
      exact ⟨r, List.mem_cons_of_mem _ hr, hlong⟩

theorem replaceRecords_blames (scene : Uuid) (records : List Record) :
    Talk.Ensures (replaceRecords scene records).run fun _ result =>
      ∀ text, result = .error (.serialization text) → ∃ r ∈ records, tooLong r = true :=
  ensures_query (fun _ => nofun) fun _ => insertRecords_blames scene records

/-- A save in a transaction is refused for a duration only if one of its records is too long. -/
theorem exists_tooLong_of_save {scene : Uuid} {records : List Record} {state : σ × Bool}
    {text : String}
    (h : (storeOn answer (.txSave scene records) state).1 = .error (.serialization text)) :
    ∃ r ∈ records, tooLong r = true := by
  have step : Talk.Ensures ((replaceRecords scene records).run.bind fun result =>
      .done (result, true)) fun _ a =>
        ∀ text, a.1 = .error (.serialization text) → ∃ r ∈ records, tooLong r = true :=
    (replaceRecords_blames scene records).bind fun _ _ hresult => hresult
  have ensures : ∀ isOpen, Talk.Ensures (carryOut (.txSave scene records) isOpen) fun _ a =>
      ∀ text, a.1 = .error (.serialization text) → ∃ r ∈ records, tooLong r = true := by
    rintro (_ | _)
    · -- the transaction is begun first, which may be refused
      rintro (text | _)
      · exact nofun
      rintro (text | _)
      · exact fun _ => nofun
      · exact step
    · exact step
  exact (ensures state.2).transcript answer state.1 text h

end Store

/-! ## What calls keep -/

namespace Database

variable {db db' : Database}

/-- A database at rest, the durations of whose rows it can hold. -/
structure Sound (db : Database) : Prop where
  rested : Rested db
  fits : ∀ scene, Fits (db.tables.recordRows scene)

/-- Rows stand for records. -/
def Readable (rows : List RecordRow) : Prop := ∃ stored, rows.mapM RecordRow.toRecord = .ok stored

/-- What a call of the catalog keeps of a database. -/
structure Keeps (db db' : Database) : Prop where
  sound : Sound db'
  scenes : db'.tables.scenes = db.tables.scenes
  readable : (∀ scene, Readable (db.tables.recordRows scene)) →
    ∀ scene, Readable (db'.tables.recordRows scene)

end Database

end Sql

/-- A change leaves the rows of its scene as they are, or in their place the rows of records that
are not too long. -/
theorem Change.onRows_cases (change : Change) (known : Bool) (now : Timestamp)
    (rows : List Sql.RecordRow) :
    (change.onRows known now rows).2 = rows ∨ ∃ records : List Record,
      (∀ r ∈ records, Sql.tooLong r = false) ∧
        (change.onRows known now rows).2 = records.map .saved := by
  unfold onRows
  split
  · exact Or.inl rfl
  unfold Sql.onRows
  split
  · exact Or.inl rfl
  split
  · exact Or.inl rfl
  split
  · exact Or.inl rfl
  · exact Or.inl rfl
  split
  · exact Or.inl rfl
  · rename_i hnone
    refine Or.inr ⟨_, fun r hr => ?_, rfl⟩
    exact Bool.eq_false_iff.mpr (List.find?_eq_none.mp hnone r hr)

/-- A change of a scene that is known, whose rows stand for records, is refused at once or succeeds,
unless it states a duration that is too long. -/
theorem Change.onRows_succeeds {change : Change} {now : Timestamp}
    {effect : SceneFingerprints → Effect ChangeReply} (planned : change.plan now = .ok effect)
    {rows : List Sql.RecordRow} (fits : Sql.Fits rows) (readable : Sql.Database.Readable rows)
    (short : ∀ f duration, change.stated? f = some duration →
      duration.toNat ≤ Sql.maxDuration) :
    ∃ reply, (change.onRows true now rows).1 = .ok reply := by
  obtain ⟨stored, hstored⟩ := readable
  obtain ⟨⟨reply, saved⟩, heffect⟩ := Change.effect_succeeds planned (.ofRecords stored)
  simp only [onRows, planned, Sql.onRows, Bool.not_true, Bool.false_eq_true, if_false, hstored,
    heffect]
  cases saved with
  | none => exact ⟨reply, rfl⟩
  | some after =>
    have hnone : after.records.find? Sql.tooLong = none := by
      refine List.find?_eq_none.mpr fun r hr hlong => ?_
      rcases Change.exists_duration planned heffect hr with ⟨q, hq, hduration⟩ | ⟨f, hstated⟩
      · have hshort := Sql.short_of_fits fits hstored q hq
        rw [Sql.tooLong, hduration] at hshort
        cases hlong.symm.trans hshort
      · exact Nat.not_lt.mpr (short f _ hstated) (Sql.tooLong_eq_true_iff.mp hlong)
    simp only [hnone]
    exact ⟨reply, rfl⟩

namespace Sql.Database

variable {db : Database}

/-- **A change keeps** what there is to keep of a database, and leaves no transaction open. -/
theorem change_keeps (sound : db.Sound) (change : Change) (now : Timestamp) :
    let t := Running.transcript (storeOn (answer 0)) (change.run now) (db, false)
    t.result = (change.onRows (db.tables.scenes.any (·.id = change.scene)) now
        (db.tables.recordRows change.scene)).1 ∧
      t.state.2 = false ∧ db.Keeps t.state.1 := by
  intro t
  obtain ⟨hresult, hstate⟩ := talk_transcript (answer 0) change now db
  obtain ⟨houtcome, leaves⟩ := opens_transcript sound.rested (change.talk_opens _ now)
  have hclosed : t.state.2 = false := by
    rcases change.course now (storeOn (answer 0)) (db, false) with ⟨e, -, ht⟩ |
      ⟨effect, saved, -, course, answers⟩
    · exact congrArg (fun t => t.state.2) ht
    · exact course_closes course answers
  refine ⟨hresult.symm.trans houtcome, hclosed, ?_⟩
  change db.Keeps (Running.transcript (storeOn (answer 0)) (change.run now) (db, false)).state.1
  rw [← hstate]
  have hcases := change.onRows_cases (db.tables.scenes.any (·.id = change.scene)) now
    (db.tables.recordRows change.scene)
  refine ⟨⟨leaves.rested, fun scene => ?_⟩, leaves.scenes, fun readable scene => ?_⟩
  · rw [leaves.rows]
    split
    · rcases hcases with hsame | ⟨records, hshort, hsaved⟩
      · rw [hsame]
        exact sound.fits _
      · rw [hsaved]
        exact fits_saved hshort
    · exact sound.fits scene
  · rw [leaves.rows]
    split
    · rcases hcases with hsame | ⟨records, -, hsaved⟩
      · rw [hsame]
        exact readable _
      · rw [hsaved]
        exact ⟨_, mapM_toRecord_saved records⟩
    · exact readable scene

/-- What a transaction loads that has just been begun is what is committed. -/
theorem storeOn_txLoad (rested : Rested db) (scene : Uuid) :
    (storeOn (answer 0) (.txLoad scene) (db, false)).1 =
      (db.tables.recordRows scene).mapM RecordRow.toRecord := by
  have hbegun : (db.begin 0).view 0 = db.tables := by
    simp [Database.begin, rested.idle 0, Database.view, Database.setTransaction, Tables.writeAll]
  have hview : ((db.begin 0).lockRow 0 scene).view 0 = (db.begin 0).view 0 := by
    unfold lockRow
    split <;> rfl
  change ((((db.begin 0).lockRow 0 scene).view 0).recordRows scene).mapM RecordRow.toRecord = _
  rw [hview, hbegun]

/-- A change whose save is refused for what the store cannot represent states a duration that is
too long. -/
theorem exists_stated_of_failsToSave (sound : db.Sound) (change : Change) (now : Timestamp)
    {a : Answered StoreCall StoreCall.Reply}
    (ha : a ∈ (Running.transcript (storeOn (answer 0)) (change.run now) (db, false)).asked)
    (fails : a.FailsToSave) :
    ∃ f duration, change.stated? f = some duration ∧ maxDuration < duration.toNat := by
  rcases change.course now (storeOn (answer 0)) (db, false) with ⟨e, -, ht⟩ |
    ⟨effect, saved, planned, course, answers⟩
  · rw [ht] at ha
    exact absurd ha List.not_mem_nil
  obtain ⟨stored, reply, after, saveReply, more, heffect, hmade, rfl⟩ := course.of_save ha fails.1
  rw [hmade] at answers
  obtain ⟨-, hload, hsave, -⟩ := answers
  have hstored := (storeOn_txLoad sound.rested change.scene).symm.trans hload
  obtain ⟨-, text, hrefusal⟩ := fails
  have hrefused : saveReply = .error (.serialization text) := by
    cases saveReply with
    | error e => exact congrArg _ (Option.some.inj hrefusal)
    | ok _ => cases hrefusal
  obtain ⟨r, hr, hlong⟩ := exists_tooLong_of_save (hsave.trans hrefused)
  rcases Change.exists_duration planned heffect hr with ⟨q, hq, hduration⟩ | ⟨f, hstated⟩
  · have hshort := short_of_fits (sound.fits _) hstored q hq
    rw [tooLong, hduration] at hshort
    cases hlong.symm.trans hshort
  · exact ⟨f, _, hstated, tooLong_eq_true_iff.mp hlong⟩

/-! ## Look-ups -/

/-- A transaction in which nothing is written leaves nothing behind. -/
theorem commit_takeSnapshot_begin (rested : Rested db) :
    ((db.begin 0).takeSnapshot 0).commit 0 = db := by
  obtain ⟨-, idle, unlocked⟩ := rested
  obtain ⟨like, tables, nextId, transactions, rowLocks⟩ := db
  obtain rfl : transactions = fun _ => none := funext idle
  obtain rfl : rowLocks = fun _ => none := funext unlocked
  simp only [Database.begin, takeSnapshot, commit, finish, setTransaction, Tables.writeAll]
  congr 1
  funext j
  by_cases hj : j = 0 <;> simp [hj]

theorem looks_state (rested : Rested db) {call : StoreCall} (looks : call.looks = true) :
    (storeOn (answer 0) call (db, false)).2 = (db, false) := by
  cases call with
  | findScenes filter page => exact congrArg (·, false) (commit_takeSnapshot_begin rested)
  | checkHealth => rfl
  | sceneExists scene => rfl
  | load scene => rfl
  | scenesWithFingerprints wanted => rfl
  | scenesWithHashes wanted => rfl
  | _ => cases looks

/-- Where the rows stand for records, no look-up is refused. -/
theorem looks_accepted (rested : Rested db)
    (readable : ∀ scene, Readable (db.tables.recordRows scene)) {call : StoreCall}
    (looks : call.looks = true) :
    call.refusal? (storeOn (answer 0) call (db, false)).1 = none := by
  cases call with
  | findScenes filter page => rfl
  | checkHealth => rfl
  | sceneExists scene => rfl
  | load scene =>
    obtain ⟨stored, hstored⟩ := readable scene
    have hload : (storeOn (answer 0) (.load scene) (db, false)).1 =
        (db.tables.recordRows scene).mapM RecordRow.toRecord := by
      change ((db.view 0).recordRows scene).mapM RecordRow.toRecord = _
      rw [view_of_none (rested.idle 0)]
    rw [hload, hstored]
    rfl
  | scenesWithFingerprints wanted => rfl
  | scenesWithHashes wanted => rfl
  | _ => cases looks

/-- Work that looks things up leaves the database as it is, and each of its calls is answered as if
it were the first. -/
theorem looks_transcript {α : Type} (rested : Rested db)
    {d : Running StoreCall StoreCall.Reply α} (only : d.Only Ask.looks) :
    let t := Running.transcript (storeOn (answer 0)) d (db, false)
    t.state = (db, false) ∧
      ∀ a ∈ t.asked, a.1.looks = true ∧ a.2 = (storeOn (answer 0) a.1 (db, false)).1 := by
  induction d with
  | done a => exact ⟨rfl, nofun⟩
  | ask q next ih =>
    obtain ⟨hq, hnext⟩ := only
    cases q with
    | acquire scene => exact hq.elim
    | release scene => exact hq.elim
    | call c =>
      obtain ⟨hstate, hasked⟩ := ih _ (hnext (storeOn (answer 0) c (db, false)).1)
      simp only [Running.transcript, looks_state rested hq]
      exact ⟨hstate, List.forall_mem_cons.mpr ⟨⟨hq, rfl⟩, hasked⟩⟩

end Sql.Database
end SceneCatalog
