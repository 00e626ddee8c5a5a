import SceneCatalog.Proofs.Consensus.Serial
import SceneCatalog.Proofs.Consensus.Store
import SceneCatalog.Proofs.Locks.Completion

/-!
Changes that run side by side might as well have run one after another. Main statement: over a
store whose calls succeed, whatever the interleaving, every change has the reply, and every scene
ends up with the stored list, that come about when the changes of each scene are made one by one in
the order in which they asked for the lock of the scene.

The invariant behind it is about one scene at a time: the calls that asked for its lock are those
that have given it back, followed by those in its line; what is left of the head of the line leads
to what the head does after the former; and while nobody is in the line, the stored list is what
the former leave.
-/
namespace SceneCatalog.Workers

/-- Changes that run side by side over a store kept in memory. -/
abbrev OverMemory :=
  Workers StoreCall StoreCall.Reply MemoryStore (Except CatalogError ChangeReply)

variable {catalog : Catalog} {calls : List (Change × Timestamp)} {seen : List Nat}
  {w w' : OverMemory} {i : Nat} {call : Change × Timestamp}

/-! ## Who asked -/

/-- The workers that had a turn, in the order of their first, when worker `i` has one. -/
def see (seen : List Nat) (i : Nat) : List Nat := if i ∈ seen then seen else seen ++ [i]

/-- The calls of a scene among those that had a turn that have asked for its lock. -/
def askers (calls : List (Change × Timestamp)) (seen : List Nat) (scene : Uuid) : List Nat :=
  (seen.filter (isOf calls scene)).filter (engages calls)

theorem mem_see {j : Nat} : j ∈ see seen i ↔ j ∈ seen ∨ j = i := by
  unfold see
  by_cases h : i ∈ seen
  · rw [if_pos h]
    constructor
    · exact Or.inl
    · rintro (hj | rfl)
      · exact hj
      · exact h
  · rw [if_neg h, List.mem_append, List.mem_singleton]

theorem askers_see_of_old (old : i ∈ seen ∨ engages calls i = false) (scene : Uuid) :
    askers calls (see seen i) scene = askers calls seen scene := by
  unfold see askers
  by_cases h : i ∈ seen
  · rw [if_pos h]
  · have he : engages calls i = false := old.resolve_left h
    rw [if_neg h, List.filter_append, List.filter_append]
    cases isOf calls scene i <;> simp [*]

theorem askers_see_of_new (new : i ∉ seen) (hc : calls[i]? = some call)
    (he : engages calls i = true) (scene : Uuid) :
    askers calls (see seen i) scene =
      askers calls seen scene ++ if sceneOf calls i = scene then [i] else [] := by
  unfold see askers
  rw [if_neg new, List.filter_append, List.filter_append, sceneOf_eq hc]
  by_cases hs : call.1.scene = scene
  · simp [isOf, hc, hs, he]
  · simp [isOf, hc, hs]

/-! ## The invariant -/

/-- The reply to a call of a scene, and the stored list it leaves, after the given ones. -/
def outcome (catalog : Catalog) (calls : List (Change × Timestamp)) (scene : Uuid)
    (finished : List Nat) (call : Change × Timestamp) :
    Except CatalogError ChangeReply × List Record :=
  call.1.alone (catalog.scene? scene).isSome call.2
    (catalog.replay scene (callsAt calls finished))

theorem replay_snoc (hc : calls[i]? = some call) (scene : Uuid) (finished : List Nat) :
    catalog.replay scene (callsAt calls (finished ++ [i])) =
      (outcome catalog calls scene finished call).2 := by
  simp [outcome, Catalog.replay, callsAt, List.filterMap_append, hc]

/-- How a scene stands when the given calls of it have given its lock back. -/
structure Stands (catalog : Catalog) (calls : List (Change × Timestamp)) (w : OverMemory)
    (scene : Uuid) (finished : List Nat) : Prop where
  rests : w.locks.line scene = [] →
    w.state.catalog.records scene = catalog.replay scene (callsAt calls finished)
  leads : ∀ i (call : Change × Timestamp) rest lease, (w.locks.line scene).head? = some i →
    calls[i]? = some call → w.workers[i]? = some ⟨rest, lease⟩ →
      Running.Leads scene (outcome catalog calls scene finished call).1
        (outcome catalog calls scene finished call).2 rest (w.state.view i scene)

/-- A scene keeps standing as it does when its line, its stored list and the head of its line are
as before. -/
theorem Stands.congr {s : Uuid} {finished : List Nat} (h : Stands catalog calls w s finished)
    (line : w'.locks.line s = w.locks.line s)
    (records : w'.state.catalog.records s = w.state.catalog.records s)
    (head : ∀ j, (w.locks.line s).head? = some j →
      w'.workers[j]? = w.workers[j]? ∧ w'.state.view j s = w.state.view j s) :
    Stands catalog calls w' s finished := by
  refine ⟨fun hnil => ?_, fun j call rest lease hhead hc hw => ?_⟩
  · rw [records]
    exact h.rests (line ▸ hnil)
  · rw [line] at hhead
    obtain ⟨hworker, hview⟩ := head j hhead
    rw [hview]
    exact h.leads j call rest lease hhead hc (hworker ▸ hw)

/-- What holds throughout a run in which `seen` are the workers that had a turn. -/
structure Tracks (catalog : Catalog) (calls : List (Change × Timestamp)) (seen : List Nat)
    (w : OverMemory) : Prop where
  agree : Agree (sceneOf calls) w
  calm : MemoryStore.Calm (sceneOf calls) w.state
  scenes : w.state.catalog.scenes = catalog.scenes
  length : w.workers.length = calls.length
  fresh : ∀ i (call : Change × Timestamp), calls[i]? = some call → i ∉ seen →
    w.workers[i]? = some ⟨call.1.run call.2, none⟩
  /-- Who has still to get the lock has done nothing, and has no place in a line before its turn. -/
  asking : ∀ i (call : Change × Timestamp) rest lease, calls[i]? = some call →
    w.workers[i]? = some ⟨rest, lease⟩ → Running.Asking (sceneOf calls i) rest →
      rest = call.1.run call.2 ∧ (lease = none → i ∉ seen)
  /-- Who has no lock to give back has its reply. -/
  settled : ∀ i (call : Change × Timestamp) rest lease, calls[i]? = some call →
    w.workers[i]? = some ⟨rest, lease⟩ → Running.Free rest →
      (∃ e, rest = .done (.error e) ∧
        ∀ known stored, call.1.alone known call.2 stored = (.error e, stored)) ∨
      ∃ earlier later, askers calls seen (sceneOf calls i) = earlier ++ i :: later ∧
        Running.Tidies (outcome catalog calls (sceneOf calls i) earlier call).1 rest
  lines : ∀ s, ∃ finished, askers calls seen s = finished ++ w.locks.line s ∧
    Stands catalog calls w s finished

/-! ## First turns -/

/-- A turn in which nothing is asked for the first time. -/
theorem Tracks.see (h : Tracks catalog calls seen w)
    (hi : ∀ rest, w.workers[i]? = some ⟨rest, none⟩ → ¬ Running.Asking (sceneOf calls i) rest) :
    Tracks catalog calls (see seen i) w := by
  -- a call that asks for a lock at all asks for it in its first turn
  have old : i ∈ seen ∨ engages calls i = false := by
    by_cases hs : i ∈ seen
    · exact Or.inl hs
    · refine Or.inr (Bool.eq_false_iff.mpr fun he => ?_)
      cases hc : calls[i]? with
      | none => simp [engages, hc] at he
      | some call =>
        refine hi _ (h.fresh i call hc hs) ?_
        rw [sceneOf_eq hc]
        exact asking_of_engages hc he
  refine ⟨h.agree, h.calm, h.scenes, h.length, ?_, ?_, ?_, ?_⟩
  · intro j call hc hj
    exact h.fresh j call hc fun hs => hj (mem_see.mpr (Or.inl hs))
  · intro j call rest lease hc hw ha
    obtain ⟨hrest, hlease⟩ := h.asking j call rest lease hc hw ha
    refine ⟨hrest, fun hl hs => ?_⟩
    rcases mem_see.mp hs with hs | rfl
    · exact hlease hl hs
    · subst hl
      exact hi rest hw ha
  · intro j call rest lease hc hw hf
    rw [askers_see_of_old old]
    exact h.settled j call rest lease hc hw hf
  · intro s
    rw [askers_see_of_old old]
    exact h.lines s

/-- A worker that has still to get the lock, of a scene that stands still, leads to its outcome. -/
theorem Tracks.leads_of_asking (h : Tracks catalog calls seen w) (hc : calls[i]? = some call)
    {rest : Running StoreCall StoreCall.Reply (Except CatalogError ChangeReply)}
    {lease : Option Nat} (here : w.workers[i]? = some ⟨rest, lease⟩)
    (ha : Running.Asking (sceneOf calls i) rest) {finished : List Nat}
    (stored : w.state.catalog.records (sceneOf calls i) =
      catalog.replay (sceneOf calls i) (callsAt calls finished)) :
    Running.Leads (sceneOf calls i) (outcome catalog calls (sceneOf calls i) finished call).1
      (outcome catalog calls (sceneOf calls i) finished call).2 rest
      (w.state.view i (sceneOf calls i)) := by
  obtain ⟨rfl, -⟩ := h.asking i call rest lease hc here ha
  have hknown : (w.state.view i (sceneOf calls i)).known =
      (catalog.scene? (sceneOf calls i)).isSome := by
    rw [MemoryStore.view, Catalog.scene?, h.scenes]
    rfl
  rw [outcome, ← hknown, ← stored]
  rw [sceneOf_eq hc] at ha ⊢
  exact Change.run_leads (w.state.view i call.1.scene) ha

/-- How a scene stands when one more worker is in its line. -/
theorem Tracks.stands_ask (h : Tracks catalog calls seen w)
    {first rest : Running StoreCall StoreCall.Reply (Except CatalogError ChangeReply)}
    (here : w.workers[i]? = some ⟨first, none⟩) (ha : Running.Asking (sceneOf calls i) first)
    {locks : LockTable} {name : Nat}
    (asked : LockTable.Asked w.locks locks (sceneOf calls i) name i)
    (hrest : ∀ result final v, Running.Leads (sceneOf calls i) result final first v →
      Running.Leads (sceneOf calls i) result final rest v) {finished : List Nat}
    (hstands : Stands catalog calls w (sceneOf calls i) finished) :
    Stands catalog calls ({ w with locks }.put i ⟨rest, some name⟩) (sceneOf calls i) finished := by
  refine ⟨fun hnil => ?_, fun j call rest' lease hhead hc hw => ?_⟩
  · rw [locks_put, asked.line] at hnil
    exact absurd hnil (List.append_ne_nil_of_right_ne_nil _ (List.cons_ne_nil _ _))
  · rw [locks_put, asked.line] at hhead
    rcases of_workers_put hw with ⟨rfl, hworker⟩ | ⟨hne, hw⟩
    · -- the newcomer is at the head only if nobody was in the line
      cases hworker
      have hnil : w.locks.line (sceneOf calls j) = [] := by
        cases hl : w.locks.line (sceneOf calls j) with
        | nil => rfl
        | cons k waiting =>
          rw [hl] at hhead
          cases hhead
          exact absurd (hl ▸ List.mem_cons_self) (h.agree.not_mem_line here _)
      exact hrest _ _ _ (h.leads_of_asking hc here ha (hstands.rests hnil))
    · refine hstands.leads j call rest' lease ?_ hc hw
      cases hl : w.locks.line (sceneOf calls i) with
      | nil =>
        rw [hl] at hhead
        cases hhead
        exact absurd rfl hne
      | cons k waiting =>
        rw [hl] at hhead
        exact hhead

/-- A worker gets into the line of its scene. -/
theorem Tracks.ask (h : Tracks catalog calls seen w) {s : Uuid}
    {next : Unit → Running StoreCall StoreCall.Reply (Except CatalogError ChangeReply)}
    (here : w.workers[i]? = some ⟨.ask (.acquire s) next, none⟩) {locks : LockTable} {name : Nat}
    (asked : LockTable.Asked w.locks locks (sceneOf calls i) name i)
    {rest : Running StoreCall StoreCall.Reply (Except CatalogError ChangeReply)}
    (hrest : rest = .ask (.acquire s) next ∨
      rest = next () ∧ Running.Holding (sceneOf calls i) (next ()))
    (agree : Agree (sceneOf calls) ({ w with locks }.put i ⟨rest, some name⟩)) :
    Tracks catalog calls (Workers.see seen i) ({ w with locks }.put i ⟨rest, some name⟩) := by
  obtain ⟨call, hc⟩ := exists_call h.length here
  obtain ⟨rfl, hin⟩ := h.agree.of_acquire here
  have ha : Running.Asking (sceneOf calls i) (.ask (.acquire (sceneOf calls i)) next) := ⟨rfl, hin⟩
  obtain ⟨hrun, hnew⟩ := h.asking i call _ _ hc here ha
  have new : i ∉ seen := hnew rfl
  have he : engages calls i = true := by
    rw [← Bool.not_eq_false]
    intro hf
    have hfree := free_of_not_engages hc hf
    rw [← hrun] at hfree
    exact hfree
  have horder := askers_see_of_new new hc he
  refine ⟨agree, h.calm, h.scenes, ?_, ?_, ?_, ?_, ?_⟩
  · rw [length_put]
    exact h.length
  · intro j call' hc' hj
    have hne : j ≠ i := fun e => hj (mem_see.mpr (Or.inr e))
    rw [workers_put_ne hne]
    exact h.fresh j call' hc' fun hs => hj (mem_see.mpr (Or.inl hs))
  · intro j call' rest' lease hc' hw ha'
    rcases of_workers_put hw with ⟨rfl, hworker⟩ | ⟨hne, hw⟩
    · cases hworker
      rw [hc] at hc'
      cases hc'
      rcases hrest with rfl | ⟨rfl, hh⟩
      · exact ⟨hrun, nofun⟩
      · exact absurd hh ha'.not_holding
    · obtain ⟨hrest', hlease⟩ := h.asking j call' rest' lease hc' hw ha'
      refine ⟨hrest', fun hl hs => ?_⟩
      rcases mem_see.mp hs with hs | hs
      · exact hlease hl hs
      · exact hne hs
  · intro j call' rest' lease hc' hw hf
    rcases of_workers_put hw with ⟨rfl, hworker⟩ | ⟨hne, hw⟩
    · cases hworker
      rcases hrest with rfl | ⟨rfl, hh⟩
      · exact absurd hf id
      · exact absurd hf hh.not_free
    · rcases h.settled j call' rest' lease hc' hw hf with hr | ⟨earlier, later, ho, ht⟩
      · exact Or.inl hr
      · -- whoever asks now comes behind those that have given the lock back
        refine Or.inr ⟨earlier, later ++ (if sceneOf calls i = sceneOf calls j then [i] else []),
          ?_, ht⟩
        rw [horder, ho, List.append_assoc]
        rfl
  · intro s
    obtain ⟨finished, ho, hstands⟩ := h.lines s
    refine ⟨finished, ?_, ?_⟩
    · rw [horder, ho, locks_put]
      by_cases hs : s = sceneOf calls i
      · subst hs
        rw [if_pos rfl, asked.line, List.append_assoc]
      · rw [if_neg (Ne.symm hs), asked.others s hs, List.append_nil]
    · by_cases hs : s = sceneOf calls i
      · subst hs
        refine h.stands_ask here ha asked (fun result final v hl => ?_) hstands
        rcases hrest with rfl | ⟨rfl, -⟩
        · exact hl
        · exact hl
      · refine hstands.congr (asked.others s hs) rfl fun j hj => ⟨workers_put_ne ?_, rfl⟩
        rintro rfl
        exact h.agree.not_mem_line here s (List.mem_of_mem_head? hj)

/-- A worker goes on without a change of its lease. -/
theorem Tracks.keep (h : Tracks catalog calls seen w)
    {rest rest' : Running StoreCall StoreCall.Reply (Except CatalogError ChangeReply)}
    {lease : Option Nat} (here : w.workers[i]? = some ⟨rest, lease⟩) (old : i ∈ seen)
    {state : MemoryStore} {asked : List (Nat × StoreCall)}
    (calm : MemoryStore.Calm (sceneOf calls) state)
    (scenes : state.catalog.scenes = w.state.catalog.scenes)
    (records : ∀ s, (w.locks.line s).head? ≠ some i →
      state.catalog.records s = w.state.catalog.records s ∧
        ∀ j, j ≠ i → state.view j s = w.state.view j s)
    (leads : (w.locks.line (sceneOf calls i)).head? = some i → ∀ result final,
      Running.Leads (sceneOf calls i) result final rest (w.state.view i (sceneOf calls i)) →
        Running.Leads (sceneOf calls i) result final rest' (state.view i (sceneOf calls i)))
    (further : ¬ Running.Asking (sceneOf calls i) rest')
    (free : Running.Free rest' → Running.Free rest ∧ (∀ result, rest ≠ .done result) ∧
      ∀ result, Running.Tidies result rest → Running.Tidies result rest')
    (agree : Agree (sceneOf calls) ({ w with state, asked }.put i ⟨rest', lease⟩)) :
    Tracks catalog calls seen ({ w with state, asked }.put i ⟨rest', lease⟩) := by
  obtain ⟨call, hc⟩ := exists_call h.length here
  refine ⟨agree, calm, scenes.trans h.scenes, ?_, ?_, ?_, ?_, ?_⟩
  · rw [length_put]
    exact h.length
  · intro j call' hc' hj
    have hne : j ≠ i := fun e => hj (e ▸ old)
    rw [workers_put_ne hne]
    exact h.fresh j call' hc' hj
  · intro j call' rest'' lease' hc' hw ha
    rcases of_workers_put hw with ⟨rfl, hworker⟩ | ⟨hne, hw⟩
    · cases hworker
      exact absurd ha further
    · exact h.asking j call' rest'' lease' hc' hw ha
  · intro j call' rest'' lease' hc' hw hf
    rcases of_workers_put hw with ⟨rfl, hworker⟩ | ⟨hne, hw⟩
    · cases hworker
      obtain ⟨hfree, hdone, htidies⟩ := free hf
      rcases h.settled j call' rest lease hc' here hfree with ⟨e, he, -⟩ | ⟨earlier, later, ho, ht⟩
      · exact absurd he (hdone _)
      · exact Or.inr ⟨earlier, later, ho, htidies _ ht⟩
    · exact h.settled j call' rest'' lease' hc' hw hf
  · intro s
    obtain ⟨finished, ho, hstands⟩ := h.lines s
    refine ⟨finished, ho, ?_⟩
    by_cases hs : (w.locks.line s).head? = some i
    · obtain rfl : sceneOf calls i = s := h.agree.scene_of_mem_line (List.mem_of_mem_head? hs)
      refine ⟨fun hnil => ?_, fun j call' rest'' lease' hhead hc' hw => ?_⟩
      · rw [locks_put] at hnil
        rw [hnil] at hs
        cases hs
      · rw [locks_put, hs] at hhead
        cases hhead
        rw [workers_put_self here] at hw
        cases hw
        exact leads hs _ _ (hstands.leads _ call' rest lease hs hc' here)
    · obtain ⟨hrecords, hviews⟩ := records s hs
      refine hstands.congr rfl hrecords fun j hj => ?_
      have hne : j ≠ i := by
        rintro rfl
        exact hs hj
      exact ⟨workers_put_ne hne, hviews j hne⟩

/-- How a scene stands when the head of its line leaves and the stored list is as it should be. -/
theorem Tracks.stands_leave (h : Tracks catalog calls seen w)
    {rest : Running StoreCall StoreCall.Reply (Except CatalogError ChangeReply)} {name : Nat}
    {waiting finished : List Nat} (hline : w.locks.line (sceneOf calls i) = i :: waiting)
    (released : LockTable.Released w.locks (w.locks.release (sceneOf calls i) name)
      (sceneOf calls i))
    (hstored : w.state.catalog.records (sceneOf calls i) =
      catalog.replay (sceneOf calls i) (callsAt calls finished)) :
    Stands catalog calls
      ({ w with locks := w.locks.release (sceneOf calls i) name }.put i ⟨rest, none⟩)
      (sceneOf calls i) finished := by
  refine ⟨fun _ => hstored, fun j call rest' lease hj hc hw => ?_⟩
  -- the next in the line has waited, and what it finds is what the others have left
  rw [locks_put, released.line, hline, List.tail_cons] at hj
  have hne : j ≠ i := by
    rintro rfl
    have hnodup := h.agree.nodup (sceneOf calls j)
    rw [hline, List.nodup_cons] at hnodup
    exact hnodup.1 (List.mem_of_mem_head? hj)
  rw [workers_put_ne hne] at hw
  have hmem : j ∈ w.locks.line (sceneOf calls i) := by
    rw [hline]
    exact List.mem_cons_of_mem _ (List.mem_of_mem_head? hj)
  obtain ⟨rest', name', hw', hscene⟩ := (h.agree.engaged _ j).mp hmem
  rw [hw] at hw'
  cases hw'
  rw [← hscene] at hstored ⊢
  refine h.leads_of_asking hc hw ?_ hstored
  rcases h.agree.fits j _ hw with ha | ⟨-, -, hh⟩ | ⟨-, hl⟩
  · exact ha
  · rw [hscene, hline] at hh
    exact absurd (Option.some.inj hh).symm hne
  · cases hl

/-- A worker gives its lock back. -/
theorem Tracks.leave (h : Tracks catalog calls seen w)
    {next : Unit → Running StoreCall StoreCall.Reply (Except CatalogError ChangeReply)}
    {name : Nat}
    (here : w.workers[i]? = some ⟨.ask (.release (sceneOf calls i)) next, some name⟩)
    (old : i ∈ seen) : Tracks catalog calls seen
      ({ w with locks := w.locks.release (sceneOf calls i) name }.put i ⟨next (), none⟩) := by
  obtain ⟨call, hc⟩ := exists_call h.length here
  obtain ⟨-, hfree, -, hhead⟩ := h.agree.of_release here
  have released := h.agree.sound.release (h.agree.named i _ name here)
  obtain ⟨waiting, hline⟩ := List.head?_eq_some_iff.mp hhead
  obtain ⟨finished, horder, hstands⟩ := h.lines (sceneOf calls i)
  obtain ⟨hfinal, htidies⟩ := hstands.leads i call _ _ hhead hc here
  have hstored : w.state.catalog.records (sceneOf calls i) =
      catalog.replay (sceneOf calls i) (callsAt calls (finished ++ [i])) := by
    rw [replay_snoc hc]
    exact hfinal
  refine ⟨h.agree.leave here hhead hfree, h.calm, h.scenes, ?_, ?_, ?_, ?_, ?_⟩
  · rw [length_put]
    exact h.length
  · intro j call' hc' hj
    have hne : j ≠ i := fun e => hj (e ▸ old)
    rw [workers_put_ne hne]
    exact h.fresh j call' hc' hj
  · intro j call' rest lease hc' hw ha
    rcases of_workers_put hw with ⟨rfl, hworker⟩ | ⟨hne, hw⟩
    · cases hworker
      exact absurd hfree ha.not_free
    · exact h.asking j call' rest lease hc' hw ha
  · intro j call' rest lease hc' hw hf
    rcases of_workers_put hw with ⟨rfl, hworker⟩ | ⟨hne, hw⟩
    · -- the calls that asked before it are those that had given the lock back
      cases hworker
      rw [hc] at hc'
      cases hc'
      exact Or.inr ⟨finished, waiting, hline ▸ horder, htidies⟩
    · exact h.settled j call' rest lease hc' hw hf
  · intro s
    by_cases hs : s = sceneOf calls i
    · subst hs
      refine ⟨finished ++ [i], ?_, h.stands_leave hline released hstored⟩
      rw [locks_put, released.line, horder, hline, List.append_assoc]
      rfl
    · obtain ⟨finished', horder', hstands'⟩ := h.lines s
      refine ⟨finished', ?_, ?_⟩
      · rw [locks_put, released.others s hs]
        exact horder'
      · refine hstands'.congr (released.others s hs) rfl fun j hj => ⟨workers_put_ne ?_, rfl⟩
        rintro rfl
        exact hs (h.agree.scene_of_mem_line (List.mem_of_mem_head? hj)).symm

/-! ## Turns and runs -/

/-- The store kept in memory, which lets no call wait. -/
def memory (worker : Nat) (call : StoreCall) (store : MemoryStore) :
    Option (call.Reply × MemoryStore) :=
  some (store.respond worker call)

theorem of_memory {call : StoreCall} {store state : MemoryStore} {reply : call.Reply}
    (h : memory i call store = some (reply, state)) :
    (store.respond i call).1 = reply ∧ (store.respond i call).2 = state := by
  have hanswer : store.respond i call = (reply, state) := Option.some.inj h
  rw [hanswer]
  exact ⟨rfl, rfl⟩

/-- A worker that makes a call goes on with the answer of the store. -/
theorem Tracks.ask_store (h : Tracks catalog calls seen w) {call : StoreCall}
    {next : call.Reply → Running StoreCall StoreCall.Reply (Except CatalogError ChangeReply)}
    {lease : Option Nat} (here : w.workers[i]? = some ⟨.ask (.call call) next, lease⟩)
    (old : i ∈ seen) {asked : List (Nat × StoreCall)}
    (agree : Agree (sceneOf calls) ({ w with state := (w.state.respond i call).2, asked }.put i
      ⟨next (w.state.respond i call).1, lease⟩)) :
    Tracks catalog calls seen ({ w with state := (w.state.respond i call).2, asked }.put i
      ⟨next (w.state.respond i call).1, lease⟩) := by
  have served := MemoryStore.respond_served w.state i call
  obtain ⟨change, hc⟩ := exists_call h.length here
  rcases h.agree.fits i _ here with ha | ⟨hholding, -, hhead⟩ | ⟨hfree, hl⟩
  · exact absurd ha id
  · obtain ⟨finished, -, hstands⟩ := h.lines (sceneOf calls i)
    have hleads := hstands.leads i change _ _ hhead hc here
    have hnext := hholding (w.state.respond i call).1
    refine h.keep here old (h.calm.leads hleads).1 served.fixed.1 ?_ ?_ ?_ ?_ agree
    · intro s hs
      have hne : sceneOf calls i ≠ s := by
        rintro rfl
        exact hs hhead
      exact ⟨served.records h.calm hleads.of hne, fun j hj => served.view h.calm hleads.of hj hne⟩
    · exact fun _ result final hl => (h.calm.leads hl).2
    · exact fun ha => ha.not_holding hnext
    · exact fun hf => absurd hf hnext.not_free
  · -- all that is left of the call is to drop its transaction
    rcases h.settled i change _ _ hc here hfree with ⟨e, he, -⟩ | ⟨earlier, later, -, ht⟩
    · cases he
    · obtain ⟨⟨s', rfl⟩, -⟩ := ht.drops (w.state.respond i call).1
      subst hl
      refine h.keep here old (h.calm.drop i s') rfl ?_ ?_ ?_ ?_ agree
      · exact fun s _ => ⟨rfl, fun j hj => MemoryStore.view_drop w.state hj s s'⟩
      · intro hhead
        exact absurd (List.mem_of_mem_head? hhead) (h.agree.not_mem_line here _)
      · exact fun ha => ha.not_free (hfree ())
      · exact fun _ => ⟨hfree, nofun, fun result ht => (ht.drops ()).2⟩

/-- **One turn** over a store whose calls succeed. -/
theorem Tracks.turn (h : Tracks catalog calls seen w) (i : Nat) :
    Tracks catalog calls (Workers.see seen i) (w.turn memory i) := by
  have t := turn_spec memory w i
  have agree := h.agree.turn t
  have hsee : i ∈ Workers.see seen i := mem_see.mpr (Or.inr rfl)
  generalize w.turn memory i = w' at t agree ⊢
  cases t with
  | idle why =>
    refine h.see fun rest hw ha => ?_
    cases why with
    | missing here =>
      rw [here] at hw
      cases hw
    | ended here =>
      rw [here] at hw
      cases hw
      exact ha
    | waiting here held =>
      rw [here] at hw
      cases hw
    | blocked here silent => cases silent
  | granted here held =>
    obtain ⟨rfl, hin⟩ := h.agree.of_acquire here
    exact h.ask here (h.agree.sound.request _ i) (Or.inr ⟨rfl, hin⟩) agree
  | queued here held =>
    obtain ⟨rfl, hin⟩ := h.agree.of_acquire here
    exact h.ask here (h.agree.sound.request _ i) (Or.inl rfl) agree
  | woken here held =>
    obtain ⟨rfl, hin⟩ := h.agree.of_acquire here
    have hs := h.see fun rest hw => by
      rw [here] at hw
      cases hw
    refine hs.keep here hsee h.calm rfl ?_ ?_ ?_ ?_ agree
    · exact fun s _ => ⟨rfl, fun j _ => rfl⟩
    · exact fun _ result final hl => hl
    · exact fun ha => ha.not_holding hin
    · exact fun hf => absurd hf hin.not_free
  | released here =>
    obtain ⟨rfl, -⟩ := h.agree.of_release here
    have hs := h.see fun rest hw => by
      rw [here] at hw
      cases hw
    exact hs.leave here hsee
  | unheld here =>
    obtain ⟨-, -, hl, -⟩ := h.agree.of_release here
    cases hl
  | @called call next lease reply state here answer =>
    have hs := h.see fun rest hw ha => by
      rw [here] at hw
      cases hw
      exact ha
    obtain ⟨rfl, rfl⟩ := of_memory answer
    exact hs.ask_store here hsee agree

theorem tracks_start (catalog : Catalog) (staging : Bool) (calls : List (Change × Timestamp)) :
    Tracks catalog calls [] (ofChanges calls (MemoryStore.of catalog staging)) := by
  have hrest : ∀ {i : Nat} {rest lease} {call : Change × Timestamp}, calls[i]? = some call →
      (ofChanges calls (MemoryStore.of catalog staging)).workers[i]? = some ⟨rest, lease⟩ →
        rest = call.1.run call.2 := by
    intro i rest lease call hc hw
    obtain ⟨call', hc', hworker⟩ := of_ofChanges hw
    rw [hc] at hc'
    cases hc'
    cases hworker
    rfl
  refine ⟨agree_ofChanges calls _, ⟨fun _ _ => rfl, fun _ => rfl, nofun⟩, rfl, ?_, ?_, ?_, ?_, ?_⟩
  · exact length_ofChanges calls _
  · intro i call hc _
    simp [ofChanges, start, hc]
  · intro i call rest lease hc hw _
    exact ⟨hrest hc hw, fun _ => List.not_mem_nil⟩
  · intro i call rest lease hc hw hf
    obtain rfl := hrest hc hw
    exact Or.inl (Change.alone_of_free hf)
  · intro s
    refine ⟨[], rfl, fun _ => rfl, fun i call rest lease hhead => ?_⟩
    cases hhead

theorem tracks_run (catalog : Catalog) (staging : Bool) (calls : List (Change × Timestamp))
    (schedule : List Nat) :
    Tracks catalog calls schedule.eraseDups
      ((ofChanges calls (MemoryStore.of catalog staging)).runSchedule memory schedule) := by
  induction schedule using List.reverseRecOn with
  | nil => exact tracks_start catalog staging calls
  | append_singleton schedule i ih =>
    have hsee : (schedule ++ [i]).eraseDups = see schedule.eraseDups i := by
      rw [eraseDups_snoc, see]
      simp only [List.mem_eraseDups]
    rw [hsee, runSchedule_append]
    exact ih.turn i

/-! ## The serial order -/

theorem Tracks.serial {schedule : List Nat} (h : Tracks catalog calls schedule.eraseDups w) :
    w.Serial catalog calls schedule := by
  have hnodup : ∀ scene, (schedule.eraseDups.filter (isOf calls scene)).Nodup :=
    fun scene => (nodup_eraseDups schedule).filter _
  constructor
  · intro i call reply hc hr
    rw [results, List.getElem?_map, Option.map_eq_some_iff] at hr
    obtain ⟨⟨rest, lease⟩, hw, hr⟩ := hr
    cases rest with
    | ask q next => cases hr
    | done result =>
      cases hr
      rcases h.settled i call _ lease hc hw trivial with ⟨e, he, halone⟩ | ⟨earlier, later, ho, ht⟩
      · cases he
        rw [halone]
      · -- the order of the first turns has calls that ask for no lock in between
        have hbefore := filter_takeWhile_ne (hnodup (sceneOf calls i)) ho
        have hreplay : catalog.replay (sceneOf calls i) (callsAt calls earlier) =
            catalog.replay (sceneOf calls i) (callsBefore calls schedule i) := by
          rw [← hbefore, replay_engages]
          rfl
        rw [← sceneOf_eq hc, ← hreplay]
        exact ht
  · intro ended scene
    obtain ⟨finished, ho, hstands⟩ := h.lines scene
    have hnil : w.locks.line scene = [] := by
      refine List.eq_nil_iff_forall_not_mem.mpr fun i hi => ?_
      obtain ⟨rest, name, hw, -⟩ := (h.agree.engaged scene i).mp hi
      exact h.agree.no_lease_of_over ended hw
    rw [hnil, List.append_nil] at ho
    rw [hstands.rests hnil, ← ho]
    exact replay_engages catalog calls scene _

/-- **Linearizability.** Over any catalog, in a store whose calls succeed and whose transactions
pass saves on at once or stage them, changes that run side by side in any interleaving have the
replies of the changes of each scene made one after another, in the order in which they asked for
its lock, and leave the stored lists that these leave; and every run can be brought to its end. -/
theorem linearizable (catalog : Catalog) (staging : Bool) (calls : List (Change × Timestamp))
    (schedule : List Nat) :
    ((ofChanges calls (MemoryStore.of catalog staging)).runSchedule memory schedule).Serial
        catalog calls schedule ∧
      ((ofChanges calls (MemoryStore.of catalog staging)).runSchedule memory
        (schedule ++ rounds calls.length)).Over :=
  ⟨(tracks_run catalog staging calls schedule).serial, completes nofun _ calls schedule⟩

end SceneCatalog.Workers
