import SceneCatalog.Proofs.Replicas.Turn
import SceneCatalog.Proofs.Sql.Transactions

/-!
Calls in several catalogs over one database. A call works on one scene and follows its course; the
locks of catalogs are left out of account, since it is the lock of the row of its scene that keeps
the others away from what it has loaded. Main statement: in every state of every run, what is
committed in a scene is what the calls leave that have had its lock, in the order in which they took
it, and whoever has it goes on from there.
-/
namespace SceneCatalog.Replicas

open Sql Database

variable {α : Type}

/-! ## The order of row locks -/

/-- The calls that have taken the lock of the row of a scene, in that order. -/
def lockOrder (asked : List (Nat × Statement)) (s : Uuid) : List Nat :=
  asked.filterMap fun (i, call) => if call.locks? = some s then some i else none

theorem mem_lockOrder {asked : List (Nat × Statement)} {i : Nat} {s : Uuid} :
    i ∈ lockOrder asked s ↔ ∃ call, (i, call) ∈ asked ∧ call.locks? = some s := by
  simp [lockOrder]

theorem lockOrder_snoc (asked : List (Nat × Statement)) (i : Nat) (call : Statement) (s : Uuid) :
    lockOrder (asked ++ [(i, call)]) s =
      lockOrder asked s ++ if call.locks? = some s then [i] else [] := by
  rw [lockOrder, List.filterMap_append]
  by_cases h : call.locks? = some s <;> simp [lockOrder, h]

/-! ## How far a call has come -/

/-- What calls are about: call `i` works on `scene i`, where it makes of the rows what `outcome i`
says; `scenes` are the scenes that are known, and `first` the rows at the start. -/
structure Plan (α : Type) where
  scene : Nat → Uuid
  scenes : List SceneEntry
  outcome : Nat → List RecordRow → α × List RecordRow
  first : Uuid → List RecordRow

namespace Plan

variable (p : Plan α)

def known (s : Uuid) : Bool := p.scenes.any (·.id = s)

/-- The committed rows of a scene when calls have ended in it one after another. -/
def left (s : Uuid) (order : List Nat) : List RecordRow :=
  order.foldl (fun rows i => (p.outcome i rows).2) (p.first s)

theorem left_snoc (s : Uuid) (order : List Nat) (i : Nat) :
    p.left s (order ++ [i]) = (p.outcome i (p.left s order)).2 := by
  simp [left]

variable (r : Replicas Statement Statement.Reply Database α)

/-- Call `i` has the lock of the row of its scene and goes on from what is committed there. -/
def Holds (i : Nat) : Prop :=
  let rows := r.state.tables.recordRows (p.scene i)
  ∃ rest t, r.rest? i = some rest ∧ r.state.transactions i = some t ∧
    Talk.Leads (p.scene i) (p.outcome i rows).1 (p.outcome i rows).2 rows rest
      ((r.state.view i).of (p.scene i))

/-- How far call `i` has come: it has not begun its transaction, or has not got the lock in it, or
has the lock, or its transaction has ended. -/
inductive Stage (i : Nat) (rest : Talk α) : Prop
  | before (idle : r.state.transactions i = none)
      (opens : Talk.Opens (p.scene i) (p.known (p.scene i)) (p.outcome i) rest)
      (fresh : i ∉ lockOrder r.asked (p.scene i))
  | begun (fits : r.state.transactions i = some ⟨none, []⟩) (known : p.known (p.scene i) = true)
      (locks : Talk.Locks (p.scene i) (p.outcome i) rest)
      (fresh : i ∉ lockOrder r.asked (p.scene i))
  | inside (locked : r.state.rowLocks (p.scene i) = some i)
  | after (earlier later : List Nat) (idle : r.state.transactions i = none)
      (order : lockOrder r.asked (p.scene i) = earlier ++ i :: later)
      (settles : Talk.Settles (p.outcome i (p.left (p.scene i) earlier)).1 rest)

/-- The database and the calls keep to the plan. -/
structure Tracks : Prop where
  orderly : ∃ owner, Orderly p.scene owner r.state
  scenes : r.state.tables.scenes = p.scenes
  /-- What is committed in a scene is what those leave that have had its lock. -/
  lines : ∀ s, ∃ finished, lockOrder r.asked s = finished ++ (r.state.rowLocks s).toList ∧
    r.state.tables.recordRows s = p.left s finished
  nodup : ∀ s, (lockOrder r.asked s).Nodup
  members : ∀ s, ∀ i ∈ lockOrder r.asked s, p.scene i = s
  holds : ∀ s i, r.state.rowLocks s = some i → p.scene i = s ∧ p.Holds r i
  stages : ∀ i rest, r.rest? i = some rest → p.Stage r i rest

end Plan

variable {p : Plan α} {r r' : Replicas Statement Statement.Reply Database α} {i j : Nat}

/-! ## What others do -/

/-- What call `i` does without touching what others have. -/
structure Aside (i : Nat) (r r' : Replicas Statement Statement.Reply Database α) :
    Prop where
  rests : ∀ j, j ≠ i → r'.rest? j = r.rest? j
  transactions : ∀ j, j ≠ i → r'.state.transactions j = r.state.transactions j
  rowLocks : ∀ j, j ≠ i → ∀ s, r.state.rowLocks s = some j → r'.state.rowLocks s = some j
  order : ∀ s, ∃ mine, lockOrder r'.asked s = lockOrder r.asked s ++ mine ∧ ∀ j ∈ mine, j = i

theorem Aside.stage (h : Aside i r r') (hj : j ≠ i) {rest : Talk α} (stage : p.Stage r j rest) :
    p.Stage r' j rest := by
  obtain ⟨mine, horder, hmine⟩ := h.order (p.scene j)
  have fresh : j ∉ lockOrder r.asked (p.scene j) → j ∉ lockOrder r'.asked (p.scene j) := by
    rw [horder, List.mem_append]
    rintro hold (hmem | hmem)
    · exact hold hmem
    · exact hj (hmine j hmem)
  cases stage with
  | before idle opens hfresh => exact .before (h.transactions j hj ▸ idle) opens (fresh hfresh)
  | begun fits known locks hfresh =>
    exact .begun (h.transactions j hj ▸ fits) known locks (fresh hfresh)
  | inside locked => exact .inside (h.rowLocks j hj _ locked)
  | after earlier later idle order settles =>
    refine .after earlier (later ++ mine) (h.transactions j hj ▸ idle) ?_ settles
    rw [horder, order, List.append_assoc]
    rfl

theorem Aside.holds (h : Aside i r r') (orderly : ∃ owner, Orderly p.scene owner r.state)
    (orderly' : ∃ owner, Orderly p.scene owner r'.state) (hj : j ≠ i)
    (rows : r'.state.tables.of (p.scene j) = r.state.tables.of (p.scene j))
    (holds : p.Holds r j) : p.Holds r' j := by
  obtain ⟨rest, t, hrest, ht, leads⟩ := holds
  obtain ⟨owner, orderly⟩ := orderly
  obtain ⟨owner', orderly'⟩ := orderly'
  have ht' : r'.state.transactions j = some t := (h.transactions j hj).trans ht
  refine ⟨rest, t, (h.rests j hj).trans hrest, ht', ?_⟩
  rw [orderly'.view ht', Tables.recordRows, rows]
  rwa [orderly.view ht] at leads

namespace Plan

/-! ## Steps -/

/-- How far a call has come can be told from the database and from what was asked of it. -/
theorem Stage.of_eq {rest : Talk α} (stage : p.Stage r i rest) (state : r'.state = r.state)
    (asked : r'.asked = r.asked) : p.Stage r' i rest := by
  cases stage with
  | before idle opens fresh => exact .before (state ▸ idle) opens (asked ▸ fresh)
  | begun fits known locks fresh => exact .begun (state ▸ fits) known locks (asked ▸ fresh)
  | inside locked => exact .inside (state ▸ locked)
  | after earlier later idle order settles =>
    exact .after earlier later (state ▸ idle) (asked ▸ order) settles

/-- A call is as far as it was when it has gone past a question about the lock of its catalog. -/
theorem Stage.pass {s : Uuid} {next : Unit → Talk α} {rest : Talk α} (stage : p.Stage r i rest)
    (here : rest = .ask (.acquire s) next ∨ rest = .ask (.release s) next) :
    p.Stage r i (next ()) := by
  rcases here with rfl | rfl
  · cases stage with
    | before idle opens fresh => exact .before idle opens fresh
    | begun fits known locks fresh => exact absurd locks id
    | inside locked => exact .inside locked
    | after earlier later idle order settles => exact absurd settles id
  · cases stage with
    | before idle opens fresh => exact .before idle opens fresh
    | begun fits known locks fresh => exact absurd locks id
    | inside locked => exact .inside locked
    | after earlier later idle order settles => exact .after earlier later idle order settles

/-- A step that changes neither what is committed nor who has locks. -/
theorem Tracks.goOn (h : p.Tracks r) (tables : r'.state.tables = r.state.tables)
    (rowLocks : r'.state.rowLocks = r.state.rowLocks)
    (order : ∀ s, lockOrder r'.asked s = lockOrder r.asked s)
    (rests : ∀ j, j ≠ i → r'.rest? j = r.rest? j)
    (transactions : ∀ j, j ≠ i → r'.state.transactions j = r.state.transactions j)
    (orderly : ∃ owner, Orderly p.scene owner r'.state)
    (holds : r.state.rowLocks (p.scene i) = some i → p.Holds r' i)
    (stage : r.state.rowLocks (p.scene i) ≠ some i → ∀ rest, r'.rest? i = some rest →
      p.Stage r' i rest) : p.Tracks r' := by
  have aside : Aside i r r' :=
    ⟨rests, transactions, fun j _ s hs => rowLocks ▸ hs, fun s =>
      ⟨[], (order s).trans (List.append_nil _).symm, nofun⟩⟩
  refine ⟨orderly, tables ▸ h.scenes, fun s => ?_, fun s => order s ▸ h.nodup s,
    fun s => order s ▸ h.members s, ?_, ?_⟩
  · rw [order, rowLocks, tables]
    exact h.lines s
  · intro s j hs
    rw [rowLocks] at hs
    obtain ⟨rfl, hj⟩ := h.holds s j hs
    by_cases hji : j = i
    · subst hji
      exact ⟨rfl, holds hs⟩
    · exact ⟨rfl, aside.holds h.orderly orderly hji (tables ▸ rfl) hj⟩
  · intro j rest hj
    by_cases hji : j = i
    · subst hji
      by_cases hl : r.state.rowLocks (p.scene j) = some j
      · exact .inside (rowLocks ▸ hl)
      · exact stage hl rest hj
    · exact aside.stage hji (h.stages j rest (rests j hji ▸ hj))

/-- The call that has the lock of its scene ends its transaction. -/
theorem Tracks.finish (h : p.Tracks r) (locked : r.state.rowLocks (p.scene i) = some i)
    (ends : Ends i (p.scene i) r.state r'.state)
    (final : r'.state.tables.recordRows (p.scene i) =
      (p.outcome i (r.state.tables.recordRows (p.scene i))).2)
    (order : ∀ s, lockOrder r'.asked s = lockOrder r.asked s)
    (rests : ∀ j, j ≠ i → r'.rest? j = r.rest? j)
    (orderly : ∃ owner, Orderly p.scene owner r'.state)
    (settles : ∀ rest, r'.rest? i = some rest →
      Talk.Settles (p.outcome i (r.state.tables.recordRows (p.scene i))).1 rest) :
    p.Tracks r' := by
  have others : ∀ s j, r.state.rowLocks s = some j → j ≠ i → p.scene i ≠ s := by
    rintro s j hs hji rfl
    rw [locked] at hs
    exact hji (Option.some.inj hs).symm
  have rowLocks : ∀ s, p.scene i ≠ s → r'.state.rowLocks s = r.state.rowLocks s := by
    intro s hs
    rw [ends.rowLocks]
    refine if_neg fun hi => hs (h.holds s i hi).1
  have unlocked : r'.state.rowLocks (p.scene i) = none := by rw [ends.rowLocks, if_pos locked]
  have aside : Aside i r r' := by
    refine ⟨rests, ends.others, fun j hji s hs => ?_, fun s =>
      ⟨[], (order s).trans (List.append_nil _).symm, nofun⟩⟩
    rw [rowLocks s (others s j hs hji)]
    exact hs
  obtain ⟨finished, horder, hrows⟩ := h.lines (p.scene i)
  rw [locked] at horder
  refine ⟨orderly, ends.scenes.trans h.scenes, fun s => ?_, fun s => order s ▸ h.nodup s,
    fun s => order s ▸ h.members s, ?_, ?_⟩
  · by_cases hs : p.scene i = s
    · subst hs
      refine ⟨finished ++ [i], ?_, ?_⟩
      · rw [order, horder, unlocked]
        exact (List.append_nil _).symm
      · rw [final, hrows, left_snoc]
    · rw [order, rowLocks s hs, Tables.recordRows, ends.rows s (Ne.symm hs)]
      exact h.lines s
  · intro s j hs
    have hne : p.scene i ≠ s := by
      rintro rfl
      rw [unlocked] at hs
      cases hs
    rw [rowLocks s hne] at hs
    obtain ⟨rfl, hj⟩ := h.holds s j hs
    refine ⟨rfl, aside.holds h.orderly orderly ?_ (ends.rows _ (Ne.symm hne)) hj⟩
    rintro rfl
    exact hne rfl
  · intro j rest hj
    by_cases hji : j = i
    · subst hji
      refine .after finished [] ends.ended ?_ ?_
      · rw [order, horder]
        rfl
      · rw [← hrows]
        exact settles rest hj
    · exact aside.stage hji (h.stages j rest (rests j hji ▸ hj))

/-- A call gets the lock of its scene. -/
theorem Tracks.lock (h : p.Tracks r) {rest : Talk α} (free : r.state.rowLocks (p.scene i) = none)
    (fits : r.state.transactions i = some ⟨none, []⟩)
    (state : r'.state = { r.state with
      rowLocks := fun s => if s = p.scene i then some i else r.state.rowLocks s })
    (order : ∀ s, lockOrder r'.asked s =
      lockOrder r.asked s ++ if p.scene i = s then [i] else [])
    (fresh : i ∉ lockOrder r.asked (p.scene i))
    (after : r'.rest? i = some rest) (rests : ∀ j, j ≠ i → r'.rest? j = r.rest? j)
    (leads : ∀ entries, Talk.Leads (p.scene i) (p.outcome i (loaded entries)).1
      (p.outcome i (loaded entries)).2 (loaded entries) rest entries) : p.Tracks r' := by
  have hlocks : ∀ s, r'.state.rowLocks s =
      if s = p.scene i then some i else r.state.rowLocks s := fun s => by rw [state]
  have aside : Aside i r r' := by
    refine ⟨rests, fun j _ => by rw [state], fun j _ s hs => ?_, fun s => ⟨_, order s, ?_⟩⟩
    · rw [hlocks, if_neg]
      · exact hs
      · rintro rfl
        rw [free] at hs
        cases hs
    · intro j hj
      split at hj
      · exact List.mem_singleton.mp hj
      · exact absurd hj List.not_mem_nil
  have orderly : ∃ owner, Orderly p.scene owner r'.state := by
    obtain ⟨owner, orderly⟩ := h.orderly
    exact ⟨owner, by rw [state]; exact ⟨orderly.owned, orderly.current, orderly.own⟩⟩
  have tables : r'.state.tables = r.state.tables := by rw [state]
  refine ⟨orderly, tables ▸ h.scenes, fun s => ?_, fun s => ?_, fun s j hj => ?_, fun s j hs => ?_,
    fun j q hq => ?_⟩
  · obtain ⟨finished, horder, hrows⟩ := h.lines s
    refine ⟨finished, ?_, tables ▸ hrows⟩
    by_cases hs : p.scene i = s
    · subst hs
      rw [order, horder, free, hlocks, if_pos rfl, if_pos rfl]
      simp
    · rw [order, horder, hlocks, if_neg hs, if_neg (Ne.symm hs), List.append_nil]
  · rw [order]
    split
    · next hs =>
      subst hs
      rw [List.nodup_append_comm]
      simpa using ⟨fresh, h.nodup (p.scene i)⟩
    · rw [List.append_nil]
      exact h.nodup s
  · rw [order] at hj
    rcases List.mem_append.mp hj with hj | hj
    · exact h.members s j hj
    · split at hj
      · next hs => exact List.mem_singleton.mp hj ▸ hs
      · exact absurd hj List.not_mem_nil
  · rw [hlocks] at hs
    split at hs
    · next he =>
      cases hs
      obtain ⟨owner, orderly⟩ := orderly
      have fits' : r'.state.transactions i = some ⟨none, []⟩ := by rw [state]; exact fits
      refine ⟨he.symm, rest, _, after, fits', ?_⟩
      rw [orderly.view fits']
      exact leads _
    · next he =>
      obtain ⟨rfl, hj⟩ := h.holds s j hs
      refine ⟨rfl, aside.holds h.orderly orderly ?_ (tables ▸ rfl) hj⟩
      rintro rfl
      exact he rfl
  · by_cases hji : j = i
    · subst hji
      exact .inside ((hlocks _).trans (if_pos rfl))
    · exact aside.stage hji (h.stages j q (rests j hji ▸ hq))

/-- A call that is let through is answered at once. -/
theorem of_respond {call : Statement} {db db' : Database} {reply : call.Reply}
    (h : respond i call db = some (reply, db')) :
    db.mustWait i call = false ∧ reply = (answer i call db).1 ∧ db' = (answer i call db).2 := by
  unfold respond at h
  split at h
  · cases h
  · next hw =>
    have heq : answer i call db = (reply, db') := Option.some.inj h
    exact ⟨Bool.eq_false_iff.mpr hw, by rw [heq], by rw [heq]⟩

/-- A call goes past a question about the lock of its catalog. -/
theorem Tracks.passes (h : p.Tracks r) {s : Uuid} {next : Unit → Talk α}
    (here : r.rest? i = some (.ask (.acquire s) next) ∨ r.rest? i = some (.ask (.release s) next))
    (after : r'.rest? i = some (next ())) (rests : ∀ j, j ≠ i → r'.rest? j = r.rest? j)
    (state : r'.state = r.state) (asked : r'.asked = r.asked) : p.Tracks r' := by
  refine h.goOn (congrArg _ state) (congrArg _ state) (fun s => asked ▸ rfl) rests
    (fun j _ => congrFun (congrArg _ state) j) (state ▸ h.orderly) (fun locked => ?_)
    (fun free rest hrest => ?_)
  · obtain ⟨-, rest, t, hrest, ht, leads⟩ := h.holds _ i locked
    refine ⟨next (), t, after, state ▸ ht, ?_⟩
    rw [state]
    rcases here with here | here
    · rw [here] at hrest
      cases hrest
      exact absurd leads id
    · rw [here] at hrest
      cases hrest
      exact leads
  · obtain rfl : next () = rest := Option.some.inj (after.symm.trans hrest)
    refine Stage.of_eq ?_ state asked
    rcases here with here | here
    · exact (h.stages i _ here).pass (Or.inl rfl)
    · exact (h.stages i _ here).pass (Or.inr rfl)

/-- A call that has the lock of its scene goes on in its transaction or ends it. -/
theorem Tracks.answer_inside (h : p.Tracks r) {call : Statement} {next : call.Reply → Talk α}
    (here : r.rest? i = some (.ask (.call call) next))
    (locked : r.state.rowLocks (p.scene i) = some i)
    (state : r'.state = (answer i call r.state).2)
    (after : r'.rest? i = some (next (answer i call r.state).1))
    (rests : ∀ j, j ≠ i → r'.rest? j = r.rest? j)
    (order : call.locks? = none → ∀ s, lockOrder r'.asked s = lockOrder r.asked s) :
    p.Tracks r' := by
  obtain ⟨-, rest, t, hrest, ht, leads⟩ := h.holds _ i locked
  rw [here] at hrest
  cases hrest
  obtain ⟨owner, orderly⟩ := h.orderly
  have hcall : call.locks? = none := by
    cases call with
    | lockScene s => exact absurd leads id
    | _ => rfl
  obtain ⟨orderly', ⟨writes, hnext⟩ | ⟨ends, final, settles⟩⟩ := orderly.leads ht leads
  · rw [← state] at orderly' writes hnext
    refine h.goOn writes.tables writes.rowLocks (order hcall) rests writes.others orderly'
      (fun _ => ?_) (fun free => absurd locked free)
    obtain ⟨t', ht'⟩ := Option.isSome_iff_exists.mp writes.isOpen
    refine ⟨_, t', after, ht', ?_⟩
    rw [writes.tables] at hnext ⊢
    exact hnext
  · rw [← state] at orderly' ends final
    refine h.finish locked ends final (order hcall) rests orderly' fun rest hrest => ?_
    rw [after] at hrest
    cases hrest
    exact settles

/-- A call that has not got the lock of its scene finds out whether the scene is known, begins its
transaction, or takes the lock. -/
theorem Tracks.answer_outside (h : p.Tracks r) {call : Statement} {next : call.Reply → Talk α}
    (here : r.rest? i = some (.ask (.call call) next))
    (free : r.state.rowLocks (p.scene i) ≠ some i) (through : r.state.mustWait i call = false)
    (state : r'.state = (answer i call r.state).2)
    (after : r'.rest? i = some (next (answer i call r.state).1))
    (rests : ∀ j, j ≠ i → r'.rest? j = r.rest? j)
    (asked : r'.asked = r.asked ++ [(i, call)]) : p.Tracks r' := by
  have hstage : ∀ rest, r'.rest? i = some rest → rest = next (answer i call r.state).1 := by
    intro rest hrest
    rw [after] at hrest
    exact (Option.some.inj hrest).symm
  have order : ∀ s, lockOrder r'.asked s =
      lockOrder r.asked s ++ if call.locks? = some s then [i] else [] := fun s => by
    rw [asked, lockOrder_snoc]
  cases h.stages i _ here with
  | before idle opens fresh =>
    cases call with
    | sceneExists s =>
      obtain ⟨rfl, hnext⟩ := opens
      have same : r'.state = r.state := state
      have hknown : ((r.state.view i).scenes.any fun e => decide (e.id = p.scene i)) =
          p.known (p.scene i) := by
        rw [view_of_none idle, h.scenes]
        rfl
      have order' : ∀ s, lockOrder r'.asked s = lockOrder r.asked s :=
        fun s => (order s).trans (List.append_nil _)
      refine h.goOn (congrArg _ same) (congrArg _ same) order' rests
        (fun j _ => congrFun (congrArg _ same) j) (same ▸ h.orderly)
        (fun locked => absurd locked free) fun _ rest hrest => ?_
      obtain rfl := hstage rest hrest
      refine .before (same ▸ idle) ?_ (order' _ ▸ fresh)
      simp only [answer, perform, hknown]
      exact hnext
    | beginTx =>
      obtain ⟨known, locks⟩ := opens
      obtain ⟨owner, orderly⟩ := h.orderly
      obtain ⟨orderly', fits, others, tables, rowLocks⟩ := orderly.begin idle
      have begun : r'.state = r.state.begin i := state
      rw [← begun] at orderly' fits others tables rowLocks
      have order' : ∀ s, lockOrder r'.asked s = lockOrder r.asked s :=
        fun s => (order s).trans (List.append_nil _)
      refine h.goOn tables rowLocks order' rests others ⟨owner, orderly'⟩
        (fun locked => absurd locked free) fun _ rest hrest => ?_
      obtain rfl := hstage rest hrest
      exact .begun fits known locks (order' _ ▸ fresh)
    | _ => exact absurd opens id
  | begun fits known locks fresh =>
    obtain ⟨next', hd, leads⟩ := locks.ask
    cases hd
    have unlocked : r.state.rowLocks (p.scene i) = none := by
      cases hl : r.state.rowLocks (p.scene i) with
      | none => rfl
      | some j =>
        have hji : j = i := by simpa [mustWait, Statement.locks?, hl] using through
        exact absurd (hji ▸ hl) free
    refine h.lock unlocked fits (state.trans ?_) (fun s => ?_) fresh after rests leads
    · exact lockRow_of_known fits (h.scenes ▸ known)
    · simpa [Statement.locks?] using order s
  | inside locked => exact absurd locked free
  | after earlier later idle order settles => exact absurd settles id

/-- **One turn** over the database. -/
theorem Tracks.move (h : p.Tracks r) (move : Move respond r i r') : p.Tracks r' := by
  cases move with
  | stays rests state asked =>
    refine h.goOn (i := i) (congrArg _ state) (congrArg _ state) (fun s => asked ▸ rfl)
      (fun j _ => rests j) (fun j _ => congrFun (congrArg _ state) j) (state ▸ h.orderly)
      (fun locked => ?_) fun free rest hrest => ?_
    · obtain ⟨-, rest, t, hrest, ht, leads⟩ := h.holds _ i locked
      exact ⟨rest, t, (rests i).trans hrest, state ▸ ht, state ▸ leads⟩
    · exact (h.stages i rest ((rests i).symm.trans hrest)).of_eq state asked
  | passes here after others state asked => exact h.passes here after others state asked
  | called here answered after others asked =>
    obtain ⟨through, rfl, state⟩ := of_respond answered
    by_cases locked : r.state.rowLocks (p.scene i) = some i
    · refine h.answer_inside here locked state after others fun hcall s => ?_
      rw [asked, lockOrder_snoc, hcall]
      exact List.append_nil _
    · exact h.answer_outside here locked through state after others asked

/-- Before anybody has had a turn. -/
theorem tracks_start {talks : List (Talk α)} {db : Database} (rested : Rested db)
    (scenes : p.scenes = db.tables.scenes) (first : p.first = db.tables.recordRows)
    (opens : ∀ i d, talks[i]? = some d →
      Talk.Opens (p.scene i) (p.known (p.scene i)) (p.outcome i) d) :
    p.Tracks (start talks db) := by
  refine ⟨rested.orderly p.scene, scenes.symm, fun s => ⟨[], ?_, congrFun first.symm s⟩,
    fun s => List.nodup_nil, fun s => nofun, fun s i hs => ?_, fun i rest hrest => ?_⟩
  · change [] = [] ++ (db.rowLocks s).toList
    rw [rested.unlocked s]
    rfl
  · rw [start, rested.unlocked s] at hs
    cases hs
  · rw [rest?, start, List.getElem?_map, Option.map_map, Option.map_eq_some_iff] at hrest
    obtain ⟨d, hd, rfl⟩ := hrest
    exact .before (rested.idle i) (opens i d hd) List.not_mem_nil

/-! ## Calls that are over -/

/-- A call that has the lock of its scene is not over. -/
theorem Tracks.not_locked_of_done (h : p.Tracks r) {a : α} (here : r.rest? i = some (.done a))
    (s : Uuid) : r.state.rowLocks s ≠ some i := by
  intro hs
  obtain ⟨-, rest, t, hrest, -, leads⟩ := h.holds s i hs
  rw [here] at hrest
  cases hrest
  exact leads

/-- A call that is over has the result that it has after those that had the lock before it. -/
theorem Tracks.result (h : p.Tracks r) {a : α} (here : r.rest? i = some (.done a)) :
    a = (p.outcome i (p.left (p.scene i)
      ((lockOrder r.asked (p.scene i)).takeWhile (· ≠ i)))).1 := by
  cases h.stages i _ here with
  | before idle opens fresh => rw [opens]
  | begun fits known locks fresh => exact absurd locks id
  | inside locked => exact absurd locked (h.not_locked_of_done here _)
  | after earlier later idle order settles =>
    have nodup := h.nodup (p.scene i)
    rw [order, List.nodup_append] at nodup
    have before : ∀ j ∈ earlier, decide (j ≠ i) = true := fun j hj =>
      decide_eq_true (nodup.2.2 j hj i List.mem_cons_self)
    rw [order, List.takeWhile_append_of_pos before, List.takeWhile_cons_of_neg (by simp),
      List.append_nil]
    exact settles

/-- A call that is over and has had no lock leaves the rows as they are, whatever they are. -/
theorem Tracks.apart (h : p.Tracks r) {a : α} (here : r.rest? i = some (.done a))
    (fresh : i ∉ lockOrder r.asked (p.scene i)) (rows : List RecordRow) :
    p.outcome i rows = (a, rows) := by
  cases h.stages i _ here with
  | before idle opens fresh => exact opens rows
  | begun fits known locks fresh => exact absurd locks id
  | inside locked => exact absurd locked (h.not_locked_of_done here _)
  | after earlier later idle order settles =>
    rw [order] at fresh
    exact absurd (List.mem_append_right _ List.mem_cons_self) fresh

/-- When all calls are over, the committed rows of every scene are what they leave. -/
theorem Tracks.stored (h : p.Tracks r) (ended : r.Over) (s : Uuid) :
    r.state.tables.recordRows s = p.left s (lockOrder r.asked s) := by
  obtain ⟨finished, order, rows⟩ := h.lines s
  cases hl : r.state.rowLocks s with
  | none =>
    rw [hl] at order
    rw [rows, order]
    exact congrArg (p.left s) (List.append_nil _).symm
  | some i =>
    obtain ⟨-, rest, t, hrest, -⟩ := h.holds s i hl
    obtain ⟨a, rfl⟩ := ended.rest hrest
    exact absurd hl (h.not_locked_of_done hrest s)

end Plan
end SceneCatalog.Replicas
