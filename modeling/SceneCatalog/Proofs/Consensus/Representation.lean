import SceneCatalog.Proofs.Catalog.Order
import SceneCatalog.Proofs.Consensus.Linearization
import SceneCatalog.Proofs.Fingerprints.Merging
import SceneCatalog.Proofs.Fingerprints.Timely

/-!
What the stored lists look like throughout a run. Main statement: in every state that changes
running side by side can reach, over a store that starts without records and may refuse any call,
every stored list is without repeats, in the order of creation and timely, provided that the clock
does not go back; and whatever was stored before, a change only ever saves lists without repeats
whose records all have submitters.

No lock is needed for this. What a change saves is good at the time at which it loaded, as long as
what it loaded was good, and what is good stays good as the clock goes on.
-/
namespace SceneCatalog

/-! ## What a change saves -/

/-- The list that a call saves. -/
def StoreCall.saved? : StoreCall → Option (List Record)
  | .save _ records | .txSave _ records => some records
  | _ => none

section Saves

variable {α : Type} {scene : Uuid}

/-- Whatever it is answered, a call saves only such lists from here on. -/
def Running.Saves (Q : List Record → Prop) : Running StoreCall StoreCall.Reply α → Prop
  | .done _ => True
  | .ask (.acquire _) next => Saves Q (next ())
  | .ask (.release _) next => Saves Q (next ())
  | .ask (.call call) next =>
    (∀ records, call.saved? = some records → Q records) ∧ ∀ reply, Saves Q (next reply)

/-- A call that has not loaded yet: it saves nothing before it does, and then only lists that go
with the list it has loaded. -/
def Running.Loads (Q : List Record → List Record → Prop) :
    Running StoreCall StoreCall.Reply α → Prop
  | .done _ => True
  | .ask (.acquire _) next => Loads Q (next ())
  | .ask (.release _) next => Loads Q (next ())
  | .ask (.call (.sceneExists _)) next => ∀ reply, Loads Q (next reply)
  | .ask (.call (.txLoad _)) next =>
    (∀ e, Running.Saves (fun _ => False) (next (.error e))) ∧
      ∀ stored, Running.Saves (Q stored) (next (.ok stored))
  | _ => False

theorem Running.Saves.mono {P Q : List Record → Prop}
    {d : Running StoreCall StoreCall.Reply α} (h : Running.Saves P d)
    (imp : ∀ records, P records → Q records) : Running.Saves Q d := by
  induction d with
  | done a => exact trivial
  | ask q next ih =>
    cases q with
    | acquire s => exact ih () h
    | release s => exact ih () h
    | call c =>
      exact ⟨fun records hr => imp records (h.1 records hr), fun reply => ih reply (h.2 reply)⟩

theorem Running.Loads.saves {Q : List Record → List Record → Prop} {P : List Record → Prop}
    {d : Running StoreCall StoreCall.Reply α} (h : Running.Loads Q d)
    (imp : ∀ stored records, Q stored records → P records) : Running.Saves P d := by
  induction d with
  | done a => exact trivial
  | ask q next ih =>
    cases q with
    | acquire s => exact ih () h
    | release s => exact ih () h
    | call c =>
      cases c with
      | sceneExists s => exact ⟨nofun, fun reply => ih reply (h reply)⟩
      | txLoad s =>
        refine ⟨nofun, fun reply => ?_⟩
        match reply with
        | .error e => exact (h.1 e).mono fun _ hf => hf.elim
        | .ok stored => exact (h.2 stored).mono (imp stored)
      | _ => exact absurd h id

theorem abandon_saves (Q : List Record → Prop) (result : Except CatalogError α) :
    Running.Saves Q (abandon scene result) :=
  ⟨nofun, fun _ => trivial⟩

theorem leave_saves (Q : List Record → Prop) (result : Except CatalogError α) :
    Running.Saves Q (leave scene result) :=
  ⟨nofun, fun _ => trivial⟩

theorem conclude_saves {Q : List Record → Prop} {after : SceneFingerprints} (h : Q after.records)
    (result : α) : Running.Saves Q (conclude scene after result) := by
  refine ⟨fun records hr => Option.some.inj hr ▸ h, fun saved => ?_⟩
  match saved with
  | .error e => exact abandon_saves Q _
  | .ok () =>
    refine ⟨nofun, fun committed => ?_⟩
    match committed with
    | .error e => exact abandon_saves Q _
    | .ok () => exact trivial

theorem changeScene_loads {Q : List Record → List Record → Prop}
    {effect : SceneFingerprints → Effect α}
    (writes : ∀ stored result after, effect (.ofRecords stored) = .ok (result, some after) →
      Q stored after.records) : Running.Loads Q (changeScene scene effect) := by
  intro known
  match known with
  | .error e => exact trivial
  | .ok false => exact trivial
  | .ok true =>
    refine ⟨fun e => abandon_saves _ _, fun stored => ?_⟩
    cases h : effect (.ofRecords stored) with
    | error e => simpa only [h] using leave_saves (Q stored) _
    | ok outcome =>
      obtain ⟨result, after | after⟩ := outcome
      · simpa only [h] using leave_saves (Q stored) _
      · simpa only [h] using conclude_saves (writes stored result after h) result

end Saves

/-- What a change writes that has loaded `stored`: a list without repeats, which is timely if the
loaded one was without repeats and timely. -/
structure Writes (now : Timestamp) (stored records : List Record) : Prop where
  distinct : records.Pairwise fun r s => r.fingerprint ≠ s.fingerprint
  timely : stored.Pairwise (fun r s => r.fingerprint ≠ s.fingerprint) → Timely now stored →
    Timely now records

theorem Change.loads (change : Change) (now : Timestamp) :
    Running.Loads (Writes now) (change.run now : Work ChangeReply) := by
  rw [Change.run_eq]
  cases h : change.plan now with
  | error e => exact trivial
  | ok effect =>
    refine changeScene_loads fun stored result after he => ⟨after.distinct, fun hd ht => ?_⟩
    refine Change.timely_plan h he ?_
    rwa [SceneFingerprints.records_ofRecords hd]

/-! ## Catalogs -/

namespace Catalog

/-- A catalog with one entry for each scene that has records, where all stored lists are `Q`. -/
structure Holds (Q : List Record → Prop) (c : Catalog) : Prop where
  lists : ∀ entry ∈ c.stored, Q entry.2
  nonempty : ∀ entry ∈ c.stored, entry.2 ≠ []
  sole : (c.stored.map (·.1)).Nodup

variable {Q P : List Record → Prop} {c : Catalog}

theorem Holds.mono (h : Holds P c) (imp : ∀ records, P records → Q records) : Holds Q c :=
  ⟨fun entry he => imp _ (h.lists entry he), h.nonempty, h.sole⟩

theorem holds_ofScenes (scenes : List Scene) : Holds P (ofScenes scenes) := by
  refine ⟨?_, ?_, ?_⟩ <;> simp

theorem Holds.records (h : Holds Q c) (nil : Q []) (scene : Uuid) : Q (c.records scene) := by
  unfold Catalog.records
  cases hl : c.stored.lookup scene with
  | none => exact nil
  | some records => exact h.lists _ (mem_of_lookup hl)

theorem Holds.save (h : Holds Q c) (scene : Uuid) {records : List Record} (good : Q records) :
    Holds Q (c.save scene records) := by
  have hothers : ∀ entry ∈ c.stored.filter fun entry => !decide (entry.1 = scene),
      entry ∈ c.stored ∧ entry.1 ≠ scene := by
    intro entry he
    simpa using he
  have hsole : ((c.stored.filter fun entry => !decide (entry.1 = scene)).map (·.1)).Nodup :=
    h.sole.sublist (List.filter_sublist.map _)
  unfold Catalog.save
  cases records with
  | nil =>
    refine ⟨fun entry he => ?_, fun entry he => ?_, hsole⟩
    · exact h.lists entry (hothers entry he).1
    · exact h.nonempty entry (hothers entry he).1
  | cons r rs =>
    refine ⟨fun entry he => ?_, fun entry he => ?_, ?_⟩
    · rcases List.mem_append.mp he with he | he
      · exact h.lists entry (hothers entry he).1
      · rw [List.mem_singleton.mp he]
        exact good
    · rcases List.mem_append.mp he with he | he
      · exact h.nonempty entry (hothers entry he).1
      · rw [List.mem_singleton.mp he]
        exact List.cons_ne_nil r rs
    · have hnew : scene ∉ (c.stored.filter fun entry => !decide (entry.1 = scene)).map (·.1) := by
        intro hm
        obtain ⟨entry, he, hs⟩ := List.mem_map.mp hm
        exact (hothers entry he).2 hs
      simp only [List.isEmpty_cons, Bool.false_eq_true, if_false, List.map_append]
      rw [List.nodup_append_comm]
      exact List.nodup_cons.mpr ⟨hnew, hsole⟩

theorem Holds.saveAll {saves : List (Nat × Uuid × List Record)} (h : Holds Q c)
    (good : ∀ save ∈ saves, Q save.2.2) : Holds Q (c.saveAll saves) := by
  induction saves generalizing c with
  | nil => exact h
  | cons save saves ih =>
    have hsave := h.save save.2.1 (good save List.mem_cons_self)
    exact ih hsave fun s hs => good s (List.mem_cons_of_mem _ hs)

end Catalog

/-- A store all of whose lists are `Q`, those that wait for a commit included. -/
structure MemoryStore.Holds (Q : List Record → Prop) (store : MemoryStore) : Prop where
  catalog : store.catalog.Holds Q
  staged : ∀ entry ∈ store.staged, Q entry.2.2

/-- Calls that save only lists that are `Q` keep the store so. -/
theorem MemoryStore.Holds.served {Q : List Record → Prop} {store store' : MemoryStore} {j : Nat}
    {call : StoreCall} (h : store.Holds Q) (served : Served j store call store')
    (saves : ∀ records, call.saved? = some records → Q records) : store'.Holds Q := by
  have hunstaged : ∀ entry ∈ (store.unstage j).staged, Q entry.2.2 :=
    fun entry he => h.staged entry (List.mem_of_mem_filter he)
  cases served with
  | kept => exact ⟨h.catalog, h.staged⟩
  | saved s records what =>
    have hsaved : call.saved? = some records := by
      rcases what with rfl | ⟨rfl, -⟩
      · rfl
      · rfl
    exact ⟨h.catalog.save s (saves records hsaved), h.staged⟩
  | staged s records waits =>
    refine ⟨h.catalog, fun entry he => ?_⟩
    rcases List.mem_append.mp he with he | he
    · exact h.staged entry he
    · rw [List.mem_singleton.mp he]
      exact saves records rfl
  | published s =>
    refine ⟨h.catalog.saveAll fun save hs => h.staged save ?_, hunstaged⟩
    exact List.mem_of_mem_filter hs
  | dropped s => exact ⟨h.catalog, hunstaged⟩

namespace Workers

/-! ## What is saved, over any store -/

section Saved

variable {σ α : Type} {Q : List Record → Prop}
  {w w' : Workers StoreCall StoreCall.Reply σ α} {i : Nat}
  {respond : Nat → (call : StoreCall) → σ → Option (call.Reply × σ)}

/-- Whatever has been saved is `Q`, and so is whatever will be. -/
structure SavesOnly (Q : List Record → Prop) (w : Workers StoreCall StoreCall.Reply σ α) :
    Prop where
  workers : ∀ (i : Nat) (worker : Worker StoreCall StoreCall.Reply α),
    w.workers[i]? = some worker → Running.Saves Q worker.rest
  asked : ∀ entry ∈ w.asked, ∀ records, entry.2.saved? = some records → Q records

/-- A worker goes on without a call. -/
theorem SavesOnly.put (h : SavesOnly Q w) {worker : Worker StoreCall StoreCall.Reply α}
    (hw : Running.Saves Q worker.rest) (locks : LockTable) :
    SavesOnly Q ({ w with locks }.put i worker) := by
  refine ⟨fun j other hj => ?_, h.asked⟩
  rcases of_workers_put hj with ⟨-, rfl⟩ | ⟨-, hj⟩
  · exact hw
  · exact h.workers j other hj

theorem SavesOnly.turn (h : SavesOnly Q w) (t : Turn respond w i w') : SavesOnly Q w' := by
  cases t with
  | idle why => exact h
  | granted here held | queued here held | woken here held =>
    have hrest := h.workers i _ here
    refine h.put ?_ _
    exact hrest
  | released here | unheld here =>
    have hrest := h.workers i _ here
    refine h.put ?_ _
    exact hrest
  | called here answer =>
    obtain ⟨hsaved, hnext⟩ := h.workers i _ here
    refine ⟨fun j other hj => ?_, fun entry he => ?_⟩
    · rcases of_workers_put hj with ⟨-, rfl⟩ | ⟨-, hj⟩
      · exact hnext _
      · exact h.workers j other hj
    · rcases List.mem_append.mp he with he | he
      · exact h.asked entry he
      · rw [List.mem_singleton.mp he]
        exact hsaved

theorem savesOnly_run (respond : Nat → (call : StoreCall) → σ → Option (call.Reply × σ))
    (state : σ) (calls : List (Change × Timestamp)) (schedule : List Nat) :
    SavesOnly (fun records => records.Pairwise fun r s => r.fingerprint ≠ s.fingerprint)
      ((ofChanges calls state).runSchedule respond schedule) := by
  refine runSchedule_keeps (fun w i h => h.turn (turn_spec respond w i)) schedule ⟨?_, nofun⟩
  intro i worker hw
  obtain ⟨call, -, rfl⟩ := of_ofChanges hw
  exact (call.1.loads call.2).saves fun stored records hq => hq.distinct

end Saved

/-! ## What is stored -/

/-- The times of the calls that have loaded, in the order in which they did: a change takes the
time when it has loaded. -/
def readings (calls : List (Change × Timestamp)) (asked : List (Nat × StoreCall)) :
    List Timestamp :=
  asked.filterMap fun (i, call) =>
    match call with
    | .txLoad _ => calls[i]?.map (·.2)
    | _ => none

/-- A list that is as it should be when the clock has shown these times. -/
structure Good (clock : List Timestamp) (records : List Record) : Prop where
  distinct : records.Pairwise fun r s => r.fingerprint ≠ s.fingerprint
  timely : records = [] ∨ ∃ t ∈ clock, Timely t records

theorem good_nil (clock : List Timestamp) : Good clock [] := ⟨List.Pairwise.nil, Or.inl rfl⟩

theorem Good.mono {clock : List Timestamp} {records : List Record} (h : Good clock records)
    (more : List Timestamp) : Good (clock ++ more) records := by
  refine ⟨h.distinct, h.timely.imp id ?_⟩
  rintro ⟨t, ht, htimely⟩
  exact ⟨t, List.mem_append_left more ht, htimely⟩

/-- What is written on the grounds of a good list is good. -/
theorem Good.writes {clock : List Timestamp} {now : Timestamp} {stored records : List Record}
    (h : Good clock stored) (latest : ∀ t ∈ clock, t ≤ now) (hw : Writes now stored records) :
    Good (clock ++ [now]) records := by
  refine ⟨hw.distinct, Or.inr ⟨now, by simp, hw.timely h.distinct ?_⟩⟩
  rcases h.timely with rfl | ⟨t, ht, htimely⟩
  · exact timely_nil now
  · exact htimely.mono (latest t ht)

/-- All lists that are stored or will be saved are good, and a change that has not loaded will
write on the grounds of what it loads. -/
structure Keeps (calls : List (Change × Timestamp)) (w : OverMemory) : Prop where
  length : w.workers.length = calls.length
  store : w.state.Holds (Good (readings calls w.asked))
  workers : ∀ (i : Nat) (call : Change × Timestamp) rest lease, calls[i]? = some call →
    w.workers[i]? = some ⟨rest, lease⟩ → Running.Loads (Writes call.2) rest ∨
      Running.Saves (Good (readings calls w.asked)) rest

variable {calls : List (Change × Timestamp)} {w w' : OverMemory} {i : Nat}

theorem Keeps.put (h : Keeps calls w)
    {rest : Running StoreCall StoreCall.Reply (Except CatalogError ChangeReply)}
    {lease : Option Nat} (locks : LockTable)
    (hw : ∀ call : Change × Timestamp, calls[i]? = some call →
      Running.Loads (Writes call.2) rest ∨ Running.Saves (Good (readings calls w.asked)) rest) :
    Keeps calls ({ w with locks }.put i ⟨rest, lease⟩) := by
  refine ⟨?_, h.store, fun j call rest' lease' hc hj => ?_⟩
  · rw [length_put]
    exact h.length
  · rcases of_workers_put hj with ⟨rfl, hworker⟩ | ⟨-, hj⟩
    · cases hworker
      exact hw call hc
    · exact h.workers j call rest' lease' hc hj

theorem readings_snoc (calls : List (Change × Timestamp)) (asked : List (Nat × StoreCall))
    (entry : Nat × StoreCall) :
    readings calls (asked ++ [entry]) = readings calls asked ++ readings calls [entry] :=
  List.filterMap_append

/-- A worker makes a call and goes on with the answer. -/
theorem Keeps.call (h : Keeps calls w) {call : StoreCall}
    {next : call.Reply → Running StoreCall StoreCall.Reply (Except CatalogError ChangeReply)}
    {lease : Option Nat} (here : w.workers[i]? = some ⟨.ask (.call call) next, lease⟩)
    (clock : (readings calls (w.asked ++ [(i, call)])).Pairwise (· ≤ ·)) :
    Keeps calls (({ w with state := (w.state.respond i call).2,
                           asked := w.asked ++ [(i, call)] }).put i
      ⟨next (w.state.respond i call).1, lease⟩) := by
  have served := MemoryStore.respond_served w.state i call
  obtain ⟨change, hc⟩ := exists_call h.length here
  rw [readings_snoc] at clock
  have hmono : ∀ records, Good (readings calls w.asked) records →
      Good (readings calls (w.asked ++ [(i, call)])) records := by
    intro records hg
    rw [readings_snoc]
    exact hg.mono _
  have hcall : (∀ records, call.saved? = some records →
      Good (readings calls (w.asked ++ [(i, call)])) records) ∧
        (Running.Loads (Writes change.2) (next (w.state.respond i call).1) ∨
          Running.Saves (Good (readings calls (w.asked ++ [(i, call)])))
            (next (w.state.respond i call).1)) := by
    rcases h.workers i change _ lease hc here with hloads | hsaves
    · cases call with
      | sceneExists s => exact ⟨nofun, Or.inl (hloads _)⟩
      | txLoad s =>
        -- here the clock is read, and what the call will save is settled
        refine ⟨nofun, Or.inr ?_⟩
        have hnow : readings calls [(i, .txLoad s)] = [change.2] := by simp [readings, hc]
        rw [hnow, List.pairwise_append] at clock
        cases hreply : (w.state.respond i (.txLoad s)).1 with
        | error e => exact (hloads.1 e).mono fun _ hf => hf.elim
        | ok stored =>
          refine (hloads.2 stored).mono fun records hw => ?_
          rw [readings_snoc, hnow]
          refine Good.writes ?_ (fun t ht => clock.2.2 t ht _ List.mem_cons_self) hw
          rw [MemoryStore.of_load hreply]
          exact h.store.catalog.records (good_nil _) s
      | _ => exact absurd hloads id
    · exact ⟨fun records hr => hmono _ (hsaves.1 records hr),
        Or.inr ((hsaves.2 _).mono hmono)⟩
  refine ⟨?_, ?_, fun j change' rest' lease' hc' hj => ?_⟩
  · rw [length_put]
    exact h.length
  · have hstore : w.state.Holds (Good (readings calls (w.asked ++ [(i, call)]))) :=
      ⟨h.store.catalog.mono hmono, fun entry he => hmono _ (h.store.staged entry he)⟩
    exact hstore.served served hcall.1
  · rcases of_workers_put hj with ⟨rfl, hworker⟩ | ⟨-, hj⟩
    · cases hworker
      rw [hc] at hc'
      cases hc'
      exact hcall.2
    · exact (h.workers j change' rest' lease' hc' hj).imp id fun hs => hs.mono hmono

/-- **One turn** at which the clock has not gone back. -/
theorem Keeps.turn (h : Keeps calls w) (t : Turn memory w i w')
    (clock : (readings calls w'.asked).Pairwise (· ≤ ·)) : Keeps calls w' := by
  cases t with
  | idle why => exact h
  | granted here held | queued here held | woken here held =>
    refine h.put _ fun call hc => ?_
    have hrest := h.workers i call _ _ hc here
    exact hrest
  | released here | unheld here =>
    refine h.put _ fun call hc => ?_
    have hrest := h.workers i call _ _ hc here
    exact hrest
  | @called call next lease reply state here answer =>
    obtain ⟨rfl, rfl⟩ := of_memory answer
    exact h.call here clock

/-- What has been asked stays asked. -/
theorem asked_turn (respond : Nat → (call : StoreCall) → MemoryStore →
    Option (call.Reply × MemoryStore)) (w : OverMemory) (i : Nat) :
    ∃ more, (w.turn respond i).asked = w.asked ++ more := by
  have t := turn_spec respond w i
  generalize w.turn respond i = w' at t ⊢
  cases t with
  | called here answer => exact ⟨_, rfl⟩
  | _ => exact ⟨[], (List.append_nil _).symm⟩

theorem keeps_start (scenes : List Scene) (staging : Bool)
    (refuses : Nat → StoreCall → Option StoreError) (calls : List (Change × Timestamp)) :
    Keeps calls (ofChanges calls { MemoryStore.of (.ofScenes scenes) staging with refuses }) := by
  refine ⟨length_ofChanges calls _, ⟨Catalog.holds_ofScenes scenes, nofun⟩, ?_⟩
  intro i call rest lease hc hw
  obtain ⟨call', hc', hworker⟩ := of_ofChanges hw
  rw [hc] at hc'
  cases hc'
  cases hworker
  exact Or.inl (call.1.loads call.2)

theorem keeps_run (scenes : List Scene) (staging : Bool)
    (refuses : Nat → StoreCall → Option StoreError) (calls : List (Change × Timestamp))
    (schedule : List Nat)
    (clock : (readings calls ((ofChanges calls
      { MemoryStore.of (.ofScenes scenes) staging with refuses }).runSchedule memory schedule).asked
        ).Pairwise (· ≤ ·)) :
    Keeps calls ((ofChanges calls
      { MemoryStore.of (.ofScenes scenes) staging with refuses }).runSchedule memory schedule) := by
  induction schedule using List.reverseRecOn with
  | nil => exact keeps_start scenes staging refuses calls
  | append_singleton schedule i ih =>
    rw [runSchedule_append] at clock ⊢
    refine (ih ?_).turn (turn_spec memory _ i) clock
    -- a turn only adds to what the clock has shown
    obtain ⟨more, hmore⟩ := asked_turn memory ((ofChanges calls
      { MemoryStore.of (.ofScenes scenes) staging with refuses }).runSchedule memory schedule) i
    change (readings calls (Workers.turn memory _ i).asked).Pairwise (· ≤ ·) at clock
    rw [hmore, readings, List.filterMap_append, List.pairwise_append] at clock
    exact clock.1

end Workers

/-- What stored lists are like when the clock has last shown `last?`. -/
structure Catalog.Represented (c : Catalog) (last? : Option Timestamp) : Prop where
  distinct : ∀ scene, (c.records scene).Pairwise fun r s => r.fingerprint ≠ s.fingerprint
  backed : ∀ scene, ∀ r ∈ c.records scene, r.submitters ≠ ∅
  /-- The order of the list is that of creation. -/
  order : ∀ scene, (c.records scene).Pairwise fun r s => r.created ≤ s.created
  span : ∀ scene, ∀ r ∈ c.records scene, r.created ≤ r.updated ∧
    ∃ last, last? = some last ∧ r.updated ≤ last
  /-- No entry is kept for a scene without records. -/
  nonempty : ∀ entry ∈ c.stored, entry.2 ≠ []
  sole : (c.stored.map (·.1)).Nodup

namespace Workers

/-- A clock that does not go back shows no later time than its last. -/
theorem exists_last {clock : List Timestamp} (h : clock.Pairwise (· ≤ ·)) {t : Timestamp}
    (ht : t ∈ clock) : ∃ last, clock.getLast? = some last ∧ t ≤ last := by
  rcases List.eq_nil_or_concat clock with rfl | ⟨front, last, rfl⟩
  · exact absurd ht List.not_mem_nil
  · rw [List.concat_eq_append] at h ht ⊢
    refine ⟨last, List.getLast?_concat, ?_⟩
    rcases List.mem_append.mp ht with ht | ht
    · exact (List.pairwise_append.mp h).2.2 t ht last List.mem_cons_self
    · rw [List.mem_singleton.mp ht]
      exact Timestamp.le_refl last

theorem Keeps.represented {calls : List (Change × Timestamp)} {w : OverMemory}
    (h : Keeps calls w) (clock : (readings calls w.asked).Pairwise (· ≤ ·)) :
    w.state.catalog.Represented (readings calls w.asked).getLast? := by
  have hgood : ∀ scene, Good (readings calls w.asked) (w.state.catalog.records scene) :=
    fun scene => h.store.catalog.records (good_nil _) scene
  refine ⟨fun scene => (hgood scene).distinct, fun _ r _ => r.backed, fun scene => ?_,
    fun scene r hr => ?_, h.store.catalog.nonempty, h.store.catalog.sole⟩
  · rcases (hgood scene).timely with hnil | ⟨t, -, htimely⟩
    · rw [hnil]
      exact List.Pairwise.nil
    · exact htimely.order
  · rcases (hgood scene).timely with hnil | ⟨t, ht, htimely⟩
    · rw [hnil] at hr
      exact absurd hr List.not_mem_nil
    · obtain ⟨hspan, hupdated⟩ := htimely.span r hr
      obtain ⟨last, hlast, hle⟩ := exists_last clock ht
      exact ⟨hspan, last, hlast, Timestamp.le_trans hupdated hle⟩

/-- **The representation invariant.** In every state that changes running side by side can reach,
over a store that starts without records, stages saves or not, and refuses any calls, the stored
lists are as they should be if the clock has not gone back; and over any store whatsoever, the
lists that are saved have no repeats and no records without submitters. -/
theorem representation_invariant (calls : List (Change × Timestamp)) (schedule : List Nat) :
    (∀ (scenes : List Scene) (staging : Bool) (refuses : Nat → StoreCall → Option StoreError),
      let w := (ofChanges calls
        { MemoryStore.of (.ofScenes scenes) staging with refuses }).runSchedule memory schedule
      (readings calls w.asked).Pairwise (· ≤ ·) →
        w.state.catalog.Represented (readings calls w.asked).getLast?) ∧
      ∀ (σ : Type) (respond : Nat → (call : StoreCall) → σ → Option (call.Reply × σ)) (state : σ),
        ∀ entry ∈ ((ofChanges calls state).runSchedule respond schedule).asked,
          ∀ records, entry.2.saved? = some records →
            records.Pairwise (fun r s => r.fingerprint ≠ s.fingerprint) ∧
              ∀ r ∈ records, r.submitters ≠ ∅ := by
  constructor
  · intro scenes staging refuses w clock
    exact (keeps_run scenes staging refuses calls schedule clock).represented clock
  · intro σ respond state entry he records hr
    exact ⟨(savesOnly_run respond state calls schedule).asked entry he records hr,
      fun r _ => r.backed⟩

/-- Two submissions side by side, over a store that stages saves and refuses its third call. -/
def twoSubmissions : OverMemory :=
  (ofChanges
    [(.submit ⟨.ofNat 0, ⟨.sample, 10⟩, .ofNat 1, none⟩, ⟨1, 0⟩),
      (.submit ⟨.ofNat 0, ⟨.sample, 12⟩, .ofNat 2, none⟩, ⟨2, 0⟩)]
    { MemoryStore.of (.ofScenes [.bare (.ofNat 0) ⟨0, 0⟩]) true with
      refuses := fun n _ => if n = 2 then some (.query "refused") else none }).runSchedule
    memory (rounds 2)

theorem representation_invariant_refused :
    twoSubmissions.results.map Option.isSome = [true, true] ∧
      (twoSubmissions.state.catalog.records (.ofNat 0)).map (·.duration) = [12] ∧
      twoSubmissions.state.catalog.Represented (some ⟨2, 0⟩) := by
  refine ⟨?_, ?_, ?_⟩
  · rfl
  · rfl
  · refine (representation_invariant _ (rounds 2)).1 _ true _ ?_
    change [(⟨1, 0⟩ : Timestamp), ⟨2, 0⟩].Pairwise (· ≤ ·)
    decide

end Workers

end SceneCatalog
