import Mathlib.Logic.Function.Basic
import SceneCatalog.Proofs.Locks.Transcript
import SceneCatalog.Proofs.Sql.Course

/-!
Transactions of a database whose connections each work on one scene. What a connection sees of its
scene is what is committed there and its own writes, and nothing that it does is seen in any other
scene. Main statement: a call that runs alone has the result of its course, and leaves the rows of
its course in its scene and all other rows as they were.
-/
namespace SceneCatalog.Sql

namespace Database

variable {db : Database} {i j : Nat} {t : Transaction} {scene : Nat → Uuid} {owner : Owner}

theorem view_of_none (h : db.transactions i = none) : db.view i = db.tables := by
  simp [view, h]

@[simp] theorem transactions_set_self (db : Database) (i : Nat) (t : Option Transaction) :
    (db.setTransaction i t).transactions i = t := if_pos rfl

theorem transactions_set_ne (db : Database) (t : Option Transaction) (h : j ≠ i) :
    (db.setTransaction i t).transactions j = db.transactions j := if_neg h

/-- Every row has its own number, and what connection `i` writes are rows of `scene i`. -/
structure Orderly (scene : Nat → Uuid) (owner : Owner) (db : Database) : Prop where
  owned : Owned owner db.nextId db.tables.records
  /-- No transaction reads from a snapshot. -/
  current : ∀ i t, db.transactions i = some t → t.snapshot = none
  own : ∀ i t, db.transactions i = some t → ∀ w ∈ t.writes, w.Of owner db.nextId (scene i)

theorem of_set {t' : Option Transaction} (h : (db.setTransaction i t').transactions j = some t) :
    (j = i ∧ t' = some t) ∨ db.transactions j = some t := by
  by_cases hj : j = i
  · subst hj
    exact Or.inl ⟨rfl, (transactions_set_self ..).symm.trans h⟩
  · exact Or.inr ((transactions_set_ne db t' hj).symm.trans h)

theorem Orderly.set (h : Orderly scene owner db) (i : Nat) (t : Option Transaction)
    (fits : ∀ t', t = some t' →
      t'.snapshot = none ∧ ∀ w ∈ t'.writes, w.Of owner db.nextId (scene i)) :
    Orderly scene owner (db.setTransaction i t) := by
  refine ⟨h.owned, fun j t' hj => ?_, fun j t' hj => ?_⟩
  · rcases of_set hj with ⟨-, ht⟩ | hj
    · exact (fits t' ht).1
    · exact h.current j t' hj
  · rcases of_set hj with ⟨rfl, ht⟩ | hj
    · exact (fits t' ht).2
    · exact h.own j t' hj

/-- What a connection sees of its scene is what is committed and what it has written. -/
theorem Orderly.view (h : Orderly scene owner db) (ht : db.transactions i = some t) :
    (db.view i).of (scene i) = applyAll (db.tables.of (scene i)) t.writes := by
  rw [Database.view, ht]
  simp only [h.current i t ht, Option.getD_none]
  exact ofScene_applyAll (h.own i t ht)

/-- A transaction in which connection `i` has written goes on. -/
structure Writes (i : Nat) (db db' : Database) : Prop where
  tables : db'.tables = db.tables
  rowLocks : db'.rowLocks = db.rowLocks
  isOpen : (db'.transactions i).isSome
  others : ∀ j, j ≠ i → db'.transactions j = db.transactions j

/-- The transaction of connection `i` has ended, and has changed no rows but those of a scene. -/
structure Ends (i : Nat) (s : Uuid) (db db' : Database) : Prop where
  scenes : db'.tables.scenes = db.tables.scenes
  rows : ∀ s', s' ≠ s → db'.tables.of s' = db.tables.of s'
  ended : db'.transactions i = none
  others : ∀ j, j ≠ i → db'.transactions j = db.transactions j
  rowLocks : ∀ s', db'.rowLocks s' = if db.rowLocks s' = some i then none else db.rowLocks s'

/-! ## Statements in a transaction -/

theorem Orderly.write (h : Orderly scene owner db) (ht : db.transactions i = some t) {w : Write}
    (hw : w.Of owner db.nextId (scene i)) :
    Orderly scene owner (db.write i w) ∧ Writes i db (db.write i w) ∧
      ((db.write i w).view i).of (scene i) = w.apply ((db.view i).of (scene i)) := by
  have hwrite : db.write i w =
      db.setTransaction i (some { t with writes := t.writes ++ [w] }) := by
    simp [Database.write, ht]
  have orderly : Orderly scene owner (db.write i w) := by
    rw [hwrite]
    refine h.set i _ fun t' ht' => ?_
    cases ht'
    refine ⟨h.current i t ht, fun v hv => ?_⟩
    rcases List.mem_append.mp hv with hv | hv
    · exact h.own i t ht v hv
    · exact List.mem_singleton.mp hv ▸ hw
  have hset : (db.write i w).transactions i = some { t with writes := t.writes ++ [w] } := by
    rw [hwrite, transactions_set_self]
  refine ⟨orderly, ?_, ?_⟩
  · rw [hwrite]
    exact ⟨rfl, rfl, by simp, fun j hj => transactions_set_ne db _ hj⟩
  · have htables : (db.write i w).tables = db.tables := by rw [hwrite]; rfl
    rw [orderly.view hset, h.view ht, htables, applyAll, List.foldl_append]
    rfl

/-- The transaction of connection `i` ends with what it has written or without. -/
theorem Orderly.ends (h : Orderly scene owner db) (i : Nat) (writes : List Write)
    (own : ∀ w ∈ writes, w.Of owner db.nextId (scene i)) :
    let db' := { db.finish i with tables := db.tables.writeAll writes }
    Orderly scene owner db' ∧ Ends i (scene i) db db' := by
  obtain ⟨-, current, own'⟩ := h.set i none nofun
  refine ⟨⟨h.owned.applyAll own, current, own'⟩, rfl, fun s' hs => ?_, transactions_set_self ..,
    ?_, ?_⟩
  · exact ofScene_applyAll_of_ne h.owned own hs
  · exact fun j hj => transactions_set_ne db none hj
  · exact fun s' => rfl

theorem Orderly.commit (h : Orderly scene owner db) (ht : db.transactions i = some t) :
    Orderly scene owner (db.commit i) ∧ Ends i (scene i) db (db.commit i) ∧
      (db.commit i).tables.of (scene i) = (db.view i).of (scene i) := by
  have hcommit : db.commit i = { db.finish i with tables := db.tables.writeAll t.writes } := by
    rw [Database.commit, ht]
    rfl
  rw [hcommit]
  obtain ⟨orderly, ends⟩ := h.ends i t.writes (h.own i t ht)
  refine ⟨orderly, ends, ?_⟩
  rw [h.view ht]
  exact ofScene_applyAll (h.own i t ht)

theorem Orderly.rollback (h : Orderly scene owner db) (i : Nat) :
    Orderly scene owner (db.finish i) ∧ Ends i (scene i) db (db.finish i) ∧
      (db.finish i).tables = db.tables :=
  have ⟨orderly, ends⟩ := h.ends i [] nofun
  ⟨orderly, ends, rfl⟩

/-- Numbers that have not been given out are nobody's. -/
theorem Orderly.giveOut (h : Orderly scene owner db) (s : Uuid) :
    Orderly scene (Function.update owner db.nextId s) { db with nextId := db.nextId + 1 } := by
  have same : ∀ id < db.nextId, Function.update owner db.nextId s id = owner id :=
    fun id hlt => Function.update_of_ne (Int.ne_of_lt hlt) s owner
  have le : db.nextId ≤ db.nextId + 1 := by omega
  exact ⟨h.owned.mono le same, h.current, fun j t' hj w hw => (h.own j t' hj w hw).mono le same⟩

theorem Orderly.insert (h : Orderly scene owner db) (ht : db.transactions i = some t)
    (record : Record) :
    let db' := db.insertRecord i (scene i) record
    (∃ owner', Orderly scene owner' db') ∧ Writes i db db' ∧
      (db'.view i).of (scene i) =
        (db.view i).of (scene i) ++ [⟨db.nextId, scene i, .inserted record⟩] := by
  have hinsert : db.insertRecord i (scene i) record =
      ({ db with nextId := db.nextId + 1 } : Database).write i
        (.insert ⟨db.nextId, scene i, .inserted record⟩) := by
    simp only [insertRecord, Database.write, ht]
    rfl
  obtain ⟨orderly, writes, hview⟩ := (h.giveOut (scene i)).write ht
    (w := .insert ⟨db.nextId, scene i, .inserted record⟩)
    ⟨Int.lt_add_one_of_le (Int.le_refl _), Function.update_self .., rfl⟩
  rw [hinsert]
  exact ⟨⟨_, orderly⟩, ⟨writes.tables, writes.rowLocks, writes.isOpen, writes.others⟩, hview⟩

/-- The rows of its scene that a connection sees have numbers of its scene. -/
theorem Orderly.owned_view (h : Orderly scene owner db) (ht : db.transactions i = some t) :
    ∀ e ∈ (db.view i).of (scene i), e.id < db.nextId ∧ owner e.id = scene i := by
  intro e he
  have hscene : e.scene = scene i := of_decide_eq_true (List.mem_filter.mp he).2
  rw [h.view ht] at he
  have hbase : Owned owner db.nextId (db.tables.of (scene i)) :=
    fun e he => h.owned e (List.mem_filter.mp he).1
  exact hscene ▸ hbase.applyAll (h.own i t ht) e he

/-- A connection that deletes the rows of its scene sees none. -/
theorem Orderly.delete (h : Orderly scene owner db) (ht : db.transactions i = some t) :
    let db' := db.write i (.remove (((db.view i).of (scene i)).map (·.id)))
    Orderly scene owner db' ∧ Writes i db db' ∧ (db'.view i).of (scene i) = [] := by
  have hids : ∀ id ∈ ((db.view i).of (scene i)).map (·.id),
      id < db.nextId ∧ owner id = scene i := by
    intro id hid
    obtain ⟨e, he, rfl⟩ := List.mem_map.mp hid
    exact h.owned_view ht e he
  obtain ⟨orderly, writes, hview⟩ := h.write ht (w := .remove _) hids
  refine ⟨orderly, writes, hview.trans (List.filter_eq_nil_iff.mpr fun e he => ?_)⟩
  have hmem : e.id ∈ ((db.view i).of (scene i)).map (·.id) := List.mem_map_of_mem he
  simp [hmem]

/-- What a statement of connection `i` in its transaction comes to, when its call leads to `final`
in its scene. -/
theorem Orderly.leads {α : Type} {result : α} {final : List RecordRow}
    (h : Orderly scene owner db) (ht : db.transactions i = some t) {call : Statement}
    {next : call.Reply → Talk α}
    (leads : Talk.Leads (scene i) result final (loaded (db.tables.of (scene i)))
      (.ask (.call call) next) ((db.view i).of (scene i))) :
    let db' := (db.answer i call).2
    let rest := next (db.answer i call).1
    (∃ owner', Orderly scene owner' db') ∧
      ((Writes i db db' ∧ Talk.Leads (scene i) result final (loaded (db'.tables.of (scene i))) rest
          ((db'.view i).of (scene i))) ∨
        (Ends i (scene i) db db' ∧ loaded (db'.tables.of (scene i)) = final ∧
          Talk.Settles result rest)) := by
  -- what a statement writes is not committed, so the committed rows stay
  have writes : ∀ {db' : Database} {rest : Talk α} {mine : List RecordEntry},
      (∃ owner', Orderly scene owner' db') → Writes i db db' →
        (db'.view i).of (scene i) = mine →
          Talk.Leads (scene i) result final (loaded (db.tables.of (scene i))) rest mine →
            (∃ owner', Orderly scene owner' db') ∧
              ((Writes i db db' ∧
                Talk.Leads (scene i) result final (loaded (db'.tables.of (scene i))) rest
                  ((db'.view i).of (scene i))) ∨
              (Ends i (scene i) db db' ∧ loaded (db'.tables.of (scene i)) = final ∧
                Talk.Settles result rest)) := by
    rintro db' rest mine orderly hw rfl hl
    exact ⟨orderly, Or.inl ⟨hw, hw.tables ▸ hl⟩⟩
  cases call with
  | loadRecords s =>
    obtain ⟨rfl, hnext⟩ := leads
    exact writes ⟨owner, h⟩ ⟨rfl, rfl, by simp [answer, perform, ht], fun _ _ => rfl⟩ rfl hnext
  | deleteRecords s =>
    obtain ⟨rfl, hnext⟩ := leads
    obtain ⟨orderly, hw, hview⟩ := h.delete ht
    exact writes ⟨owner, orderly⟩ hw hview hnext
  | insertRecord s record =>
    obtain ⟨rfl, hnext⟩ := leads
    obtain ⟨orderly, hw, hview⟩ := h.insert ht record
    exact writes orderly hw hview (hnext db.nextId fun e he => (h.owned_view ht e he).1)
  | insertSubmitters id users =>
    obtain ⟨⟨e, he, rfl⟩, hnext⟩ := leads
    obtain ⟨orderly, hw, hview⟩ := h.write ht (w := .join e.id users) (h.owned_view ht e he)
    exact writes ⟨owner, orderly⟩ hw hview hnext
  | commit =>
    obtain ⟨hfinal, hsettles⟩ := leads
    obtain ⟨orderly, ends, hrows⟩ := h.commit ht
    exact ⟨⟨owner, orderly⟩, Or.inr ⟨ends, (congrArg loaded hrows).trans hfinal, hsettles⟩⟩
  | rollback =>
    obtain ⟨hfinal, hsettles⟩ := leads
    obtain ⟨orderly, ends, htables⟩ := h.rollback i
    refine ⟨⟨owner, orderly⟩, Or.inr ⟨ends, ?_, hsettles⟩⟩
    exact (congrArg (fun tables => loaded (tables.of (scene i))) htables).trans hfinal
  | _ => exact absurd leads id

/-! ## Beginning a transaction -/

theorem Orderly.begin (h : Orderly scene owner db) (ht : db.transactions i = none) :
    let db' := db.begin i
    Orderly scene owner db' ∧ db'.transactions i = some ⟨none, []⟩ ∧
      (∀ j, j ≠ i → db'.transactions j = db.transactions j) ∧ db'.tables = db.tables ∧
        db'.rowLocks = db.rowLocks := by
  have hbegin : db.begin i = db.setTransaction i (some ⟨none, []⟩) := by
    simp [Database.begin, ht]
  rw [hbegin]
  refine ⟨h.set i _ fun t ht => ?_, transactions_set_self .., fun j hj => ?_, rfl, rfl⟩
  · cases ht
    exact ⟨rfl, nofun⟩
  · exact transactions_set_ne db _ hj

/-- Taking the lock of a row that is there. -/
theorem lockRow_of_known (ht : db.transactions i = some ⟨none, []⟩) {s : Uuid}
    (known : db.tables.scenes.any (·.id = s) = true) :
    db.lockRow i s =
      { db with rowLocks := fun s' => if s' = s then some i else db.rowLocks s' } := by
  have hview : (db.view i).scenes = db.tables.scenes := by simp [Database.view, ht, Tables.writeAll]
  rw [lockRow, if_pos ⟨by rw [ht]; rfl, by rw [hview]; exact known⟩]

/-! ## A call that runs alone -/

/-- Nobody is connected, and every row has its own number. -/
structure Rested (db : Database) : Prop where
  owned : ∃ owner, Owned owner db.nextId db.tables.records
  idle : ∀ i, db.transactions i = none
  unlocked : ∀ s, db.rowLocks s = none

theorem Rested.orderly (h : Rested db) (scene : Nat → Uuid) : ∃ owner, Orderly scene owner db := by
  obtain ⟨owner, owned⟩ := h.owned
  refine ⟨owner, owned, fun i t ht => ?_, fun i t ht => ?_⟩
  all_goals
    rw [h.idle i] at ht
    cases ht

variable {α : Type} {s : Uuid} {result : α} {final : List RecordRow}

theorem settles_alone {d : Talk α} (h : Talk.Settles result d) (db : Database) :
    let t := Running.transcript (answer 0) d db
    t.result = result ∧ t.state = db := by
  induction d with
  | done a => exact ⟨h, rfl⟩
  | ask q next ih =>
    cases q with
    | acquire s => exact absurd h id
    | release s => exact ih () h
    | call c => exact absurd h id

theorem Writes.ends {db' db'' : Database} (h : Writes i db db') (h' : Ends i s db' db'') :
    Ends i s db db'' where
  scenes := h'.scenes.trans (congrArg Tables.scenes h.tables)
  rows s' hs := (h'.rows s' hs).trans (congrArg (Tables.of · s') h.tables)
  ended := h'.ended
  others j hj := (h'.others j hj).trans (h.others j hj)
  rowLocks s' := h.rowLocks ▸ h'.rowLocks s'

theorem leads_alone {d : Talk α} {db : Database} {t : Transaction} {owner : Owner}
    (h : Orderly (fun _ => s) owner db) (ht : db.transactions 0 = some t)
    (leads : Talk.Leads s result final (loaded (db.tables.of s)) d ((db.view 0).of s)) :
    let t := Running.transcript (answer 0) d db
    t.result = result ∧ (∃ owner', Orderly (fun _ => s) owner' t.state) ∧ Ends 0 s db t.state ∧
      loaded (t.state.tables.of s) = final := by
  induction d generalizing db t owner with
  | done a => exact absurd leads id
  | ask q next ih =>
    cases q with
    | acquire s => exact absurd leads id
    | release s => exact ih () h ht leads
    | call c =>
      obtain ⟨⟨owner', h'⟩, ⟨writes, hnext⟩ | ⟨ends, hfinal, hsettles⟩⟩ := h.leads ht leads
      · obtain ⟨t', ht'⟩ := Option.isSome_iff_exists.mp writes.isOpen
        obtain ⟨hresult, orderly, ends, hfinal⟩ := ih _ h' ht' hnext
        exact ⟨hresult, orderly, writes.ends ends, hfinal⟩
      · obtain ⟨hresult, hstate⟩ := settles_alone hsettles (db.answer 0 c).2
        exact ⟨hresult, hstate ▸ ⟨owner', h'⟩, hstate ▸ ends, hstate ▸ hfinal⟩

/-- What a call of a scene leaves when it has run alone. -/
structure Leaves (s : Uuid) (final : List RecordRow) (db db' : Database) : Prop where
  rested : Rested db'
  scenes : db'.tables.scenes = db.tables.scenes
  rows : ∀ s', db'.tables.recordRows s' = if s' = s then final else db.tables.recordRows s'

/-- When the only transaction has ended, nobody is connected. -/
theorem Ends.leaves {db₀ db' : Database} (h : Ends 0 s db db') (rested : Rested db₀)
    (tables : db.tables = db₀.tables)
    (others : ∀ j, j ≠ 0 → db.transactions j = db₀.transactions j)
    (locks : ∀ s', db.rowLocks s' = none ∨ db.rowLocks s' = some 0)
    (owned : ∃ owner, Owned owner db'.nextId db'.tables.records) :
    Leaves s (db'.tables.recordRows s) db₀ db' := by
  refine ⟨⟨owned, fun j => ?_, fun s' => ?_⟩, tables ▸ h.scenes, fun s' => ?_⟩
  · by_cases hj : j = 0
    · exact hj ▸ h.ended
    · rw [h.others j hj, others j hj, rested.idle j]
  · rw [h.rowLocks]
    rcases locks s' with hl | hl <;> simp [hl]
  · by_cases hs : s' = s
    · rw [if_pos hs, hs]
    · rw [if_neg hs, ← tables]
      exact congrArg loaded (h.rows s' hs)

theorem locks_transcript {outcome : List RecordRow → α × List RecordRow} {d : Talk α}
    {db : Database} (rested : Rested db) (known : db.tables.scenes.any (·.id = s) = true)
    (locks : Talk.Locks s outcome d) :
    let t := Running.transcript (answer 0) d (db.begin 0)
    t.result = (outcome (db.tables.recordRows s)).1 ∧
      Leaves s (outcome (db.tables.recordRows s)).2 db t.state := by
  obtain ⟨next, rfl, leads⟩ := locks.ask
  obtain ⟨owner, orderly⟩ := rested.orderly fun _ => s
  obtain ⟨⟨owned, current, own⟩, begun, others, tables, rowLocks⟩ := orderly.begin (rested.idle 0)
  let locked : Database :=
    { db.begin 0 with rowLocks := fun s' => if s' = s then some 0 else db.rowLocks s' }
  have orderly' : Orderly (fun _ => s) owner locked := ⟨owned, current, own⟩
  have hlock : (db.begin 0).lockRow 0 s = locked := lockRow_of_known begun known
  -- with no writes so far, the connection sees what is committed
  have hview : (locked.view 0).of s = db.tables.of s := orderly'.view (i := 0) begun
  have hleads : Talk.Leads s (outcome (db.tables.recordRows s)).1
      (outcome (db.tables.recordRows s)).2 (loaded (locked.tables.of s)) (next (.ok ()))
        ((locked.view 0).of s) := by
    rw [hview]
    exact leads (db.tables.of s)
  obtain ⟨hresult, ⟨owner', orderly''⟩, ends, hfinal⟩ := leads_alone orderly' begun hleads
  change (Running.transcript (answer 0) (next (.ok ())) ((db.begin 0).lockRow 0 s)).result = _ ∧
    Leaves s _ db (Running.transcript (answer 0) (next (.ok ())) ((db.begin 0).lockRow 0 s)).state
  rw [hlock]
  refine ⟨hresult, ?_⟩
  have hleaves := ends.leaves rested tables others (fun s' => ?_) ⟨owner', orderly''.owned⟩
  · rwa [Tables.recordRows, hfinal] at hleaves
  · by_cases hs : s' = s
    · exact Or.inr (if_pos hs)
    · exact Or.inl ((if_neg hs).trans (rested.unlocked s'))

/-- **A call that runs alone** follows its course. -/
theorem opens_transcript {outcome : List RecordRow → α × List RecordRow} {d : Talk α}
    {db : Database} (rested : Rested db)
    (opens : Talk.Opens s (db.tables.scenes.any (·.id = s)) outcome d) :
    let t := Running.transcript (answer 0) d db
    t.result = (outcome (db.tables.recordRows s)).1 ∧
      Leaves s (outcome (db.tables.recordRows s)).2 db t.state := by
  induction d with
  | done a =>
    rw [opens (db.tables.recordRows s)]
    refine ⟨rfl, rested, rfl, fun s' => ?_⟩
    split <;> simp_all [Running.transcript]
  | ask q next ih =>
    cases q with
    | acquire s => exact ih () opens
    | release s => exact ih () opens
    | call c =>
      cases c with
      | sceneExists s' =>
        obtain ⟨rfl, hnext⟩ := opens
        refine ih _ ?_
        rw [perform, view_of_none (rested.idle 0)]
        exact hnext
      | beginTx => exact locks_transcript rested opens.1 opens.2
      | _ => exact absurd opens id

end Database
end SceneCatalog.Sql
