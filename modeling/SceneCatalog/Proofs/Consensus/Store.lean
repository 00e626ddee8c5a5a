import SceneCatalog.Proofs.Association
import SceneCatalog.Proofs.Consensus.Alone

/-!
The store kept in memory, seen through the eyes of the workers. What a worker sees of its scene
changes by its own calls as it would if it were alone, and by nobody else's as long as the others
make their calls of other scenes.
-/
namespace SceneCatalog

/-! ## Saves -/

namespace Catalog

@[simp] theorem scenes_save (c : Catalog) (scene : Uuid) (records : List Record) :
    (c.save scene records).scenes = c.scenes := rfl

theorem records_save (c : Catalog) (scene : Uuid) (saved : List Record) (other : Uuid) :
    (c.save scene saved).records other = if other = scene then saved else c.records other := by
  have hothers : (c.stored.filter fun entry => !decide (entry.1 = scene)).lookup other =
      if other = scene then none else c.stored.lookup other := lookup_filter_ne _ _ _
  unfold save records
  by_cases ho : other = scene
  · subst ho
    cases saved with
    | nil => simp [hothers]
    | cons r rs => simp [List.lookup_append, hothers]
  · have hlast : ∀ v : List Record, [(scene, v)].lookup other = none := fun v => by
      rw [lookup_cons_of_ne ho]
      rfl
    cases saved with
    | nil => simp [hothers, ho]
    | cons r rs => simp [List.lookup_append, hothers, hlast, ho]

/-- Saves one after another. -/
def saveAll (c : Catalog) (saves : List (Nat × Uuid × List Record)) : Catalog :=
  saves.foldl (fun catalog (_, scene, records) => catalog.save scene records) c

theorem saveAll_append (saves : List (Nat × Uuid × List Record)) (i : Nat) (scene : Uuid)
    (records : List Record) (c : Catalog) :
    c.saveAll (saves ++ [(i, scene, records)]) = (c.saveAll saves).save scene records := by
  unfold saveAll
  rw [List.foldl_append]
  rfl

@[simp] theorem scenes_saveAll (saves : List (Nat × Uuid × List Record)) (c : Catalog) :
    (c.saveAll saves).scenes = c.scenes := by
  induction saves generalizing c with
  | nil => rfl
  | cons save saves ih => exact ih _

/-- Saves of other scenes leave a stored list as it is. -/
theorem records_saveAll_of_ne {saves : List (Nat × Uuid × List Record)} {scene : Uuid}
    (h : ∀ save ∈ saves, save.2.1 ≠ scene) (c : Catalog) :
    (c.saveAll saves).records scene = c.records scene := by
  induction saves generalizing c with
  | nil => rfl
  | cons save saves ih =>
    have hne : scene ≠ save.2.1 := (h save List.mem_cons_self).symm
    have hrest := ih (fun s hs => h s (List.mem_cons_of_mem _ hs)) (c.save save.2.1 save.2.2)
    rw [records_save, if_neg hne] at hrest
    exact hrest

/-- What saves leave in a stored list depends on no other stored list. -/
theorem records_saveAll_congr (saves : List (Nat × Uuid × List Record)) {c c' : Catalog}
    {scene : Uuid} (h : c.records scene = c'.records scene) :
    (c.saveAll saves).records scene = (c'.saveAll saves).records scene := by
  induction saves generalizing c c' with
  | nil => exact h
  | cons save saves ih =>
    refine ih ?_
    rw [records_save, records_save, h]

end Catalog

/-! ## What a worker sees -/

namespace MemoryStore

/-- The saves of a worker that wait for its commit. -/
def mine (store : MemoryStore) (worker : Nat) : List (Nat × Uuid × List Record) :=
  store.staged.filter (·.1 = worker)

/-- What a worker sees of a scene. -/
def view (store : MemoryStore) (worker : Nat) (scene : Uuid) : SceneView where
  known := (store.catalog.scene? scene).isSome
  staging := store.staging
  records := store.catalog.records scene
  ahead := (store.catalog.saveAll (store.mine worker)).records scene

/-- A store that refuses nothing, where worker `i` has made saves of `scene i` only. -/
structure Calm (scene : Nat → Uuid) (store : MemoryStore) : Prop where
  willing : ∀ n call, store.refuses n call = none
  direct : store.staging = false → store.staged = []
  own : ∀ entry ∈ store.staged, entry.2.1 = scene entry.1

variable {scene : Nat → Uuid} {store : MemoryStore} {i j : Nat}

theorem mine_append (store : MemoryStore) (i : Nat) (entry : Nat × Uuid × List Record) :
    ({ store with staged := store.staged ++ [entry] }).mine i =
      store.mine i ++ if entry.1 = i then [entry] else [] := by
  unfold mine
  rw [List.filter_append]
  by_cases h : entry.1 = i <;> simp [h]

theorem mine_unstage (store : MemoryStore) (i j : Nat) :
    (store.unstage i).mine j = if j = i then [] else store.mine j := by
  unfold mine unstage
  rw [List.filter_filter]
  by_cases h : j = i
  · rw [if_pos h, List.filter_eq_nil_iff]
    intro entry _
    simp [h]
  · rw [if_neg h]
    refine List.filter_congr fun entry _ => ?_
    by_cases he : entry.1 = j
    · simp [he, h]
    · simp [he]

theorem Calm.unstage (h : Calm scene store) (i : Nat) : Calm scene (store.unstage i) := by
  refine ⟨h.willing, fun hs => ?_, fun entry he => h.own entry (List.mem_of_mem_filter he)⟩
  change store.staged.filter _ = []
  rw [h.direct hs]
  rfl

theorem Calm.drop (h : Calm scene store) (i : Nat) (s : Uuid) :
    Calm scene (store.respond i (.txDrop s)).2 :=
  ⟨(h.unstage i).willing, (h.unstage i).direct, (h.unstage i).own⟩

/-- In a store that passes saves on at once, a commit leaves what is there. -/
theorem Calm.view_of_direct (h : Calm scene store) (hs : store.staging = false) (i : Nat)
    (s : Uuid) :
    store.view i s = ⟨(store.catalog.scene? s).isSome, false, store.catalog.records s,
      store.catalog.records s⟩ := by
  have hmine : store.mine i = [] := by
    rw [mine, h.direct hs]
    rfl
  unfold view
  rw [hmine, hs]
  rfl

theorem view_unstage (store : MemoryStore) (i : Nat) (s : Uuid) :
    (store.unstage i).view i s = (store.view i s).drop := by
  unfold view
  rw [mine_unstage, if_pos rfl]
  rfl

theorem publish_eq (store : MemoryStore) (i : Nat) :
    store.publish i =
      { store.unstage i with catalog := store.catalog.saveAll (store.mine i) } := rfl

theorem view_publish (store : MemoryStore) (i : Nat) (s : Uuid) :
    (store.publish i).view i s = (store.view i s).commit := by
  have hmine : (store.publish i).mine i = [] := by
    have := mine_unstage store i i
    rwa [if_pos rfl] at this
  have hscene : (store.publish i).catalog.scene? s = store.catalog.scene? s := by
    rw [publish_eq, Catalog.scene?, Catalog.scenes_saveAll]
    rfl
  unfold view
  rw [hmine, hscene]
  rfl

/-- A worker that saves sees what it saved when it has committed, or at once. -/
theorem Calm.save (h : Calm scene store) (i : Nat) (records : List Record) :
    ∃ after, store.respond i (.txSave (scene i) records) = (.ok (), after) ∧ Calm scene after ∧
      after.view i (scene i) = (store.view i (scene i)).save records := by
  cases hs : store.staging with
  | true =>
    refine ⟨{ store with
      staged := store.staged ++ [(i, scene i, records)], served := store.served + 1 },
      ?_, ⟨h.willing, fun hf => ?_, fun entry he => ?_⟩, ?_⟩
    · simp only [respond, perform, h.willing]
      rw [if_pos hs]
    · cases hs.symm.trans hf
    · rcases List.mem_append.mp he with he | he
      · exact h.own entry he
      · rw [List.mem_singleton.mp he]
    · have hmine := mine_append store i (i, scene i, records)
      rw [if_pos rfl] at hmine
      have hahead : (store.catalog.saveAll (store.mine i ++ [(i, scene i, records)])).records
          (scene i) = records := by
        rw [Catalog.saveAll_append, Catalog.records_save, if_pos rfl]
      simp only [view, SceneView.save, hs, if_true]
      congr 1
      exact (congrArg (fun m => (store.catalog.saveAll m).records (scene i)) hmine).trans hahead
  | false =>
    let after : MemoryStore := { store with
      catalog := store.catalog.save (scene i) records, served := store.served + 1 }
    have hcalm : Calm scene after := ⟨h.willing, h.direct, h.own⟩
    have hsaved : after.catalog.records (scene i) = records := by
      rw [Catalog.records_save, if_pos rfl]
    refine ⟨after, ?_, hcalm, ?_⟩
    · simp only [respond, perform, h.willing]
      rw [if_neg (Bool.eq_false_iff.mp hs)]
    · rw [hcalm.view_of_direct hs, h.view_of_direct hs, hsaved]
      rfl

/-- A worker that commits sees what a commit was to leave. -/
theorem Calm.commit (h : Calm scene store) (i : Nat) :
    ∃ after, store.respond i (.txCommit (scene i)) = (.ok (), after) ∧ Calm scene after ∧
      after.view i (scene i) = (store.view i (scene i)).commit := by
  cases hs : store.staging with
  | true =>
    refine ⟨{ store.publish i with served := store.served + 1 }, ?_, ?_, view_publish store i _⟩
    · simp only [respond, perform, h.willing]
      rw [if_pos hs]
      rfl
    · exact ⟨(h.unstage i).willing, (h.unstage i).direct, (h.unstage i).own⟩
  | false =>
    refine ⟨{ store with served := store.served + 1 }, ?_, ⟨h.willing, h.direct, h.own⟩, ?_⟩
    · simp only [respond]
      rw [if_neg (Bool.eq_false_iff.mp hs)]
    · change store.view i (scene i) = _
      rw [h.view_of_direct hs]
      rfl

/-- **A call of its own.** Going on with the answer, a worker sees what it would if it were
alone. -/
theorem Calm.leads (h : Calm scene store) {α : Type} {result : α} {final : List Record}
    {call : StoreCall} {next : call.Reply → Running StoreCall StoreCall.Reply α}
    (leads : Running.Leads (scene i) result final (.ask (.call call) next)
      (store.view i (scene i))) :
    Calm scene (store.respond i call).2 ∧
      Running.Leads (scene i) result final (next (store.respond i call).1)
        ((store.respond i call).2.view i (scene i)) := by
  cases call with
  | sceneExists s =>
    obtain ⟨rfl, hnext⟩ := leads
    simp only [respond, answer, h.willing]
    exact ⟨⟨h.willing, h.direct, h.own⟩, hnext⟩
  | txLoad s =>
    obtain ⟨rfl, hnext⟩ := leads
    simp only [respond, answer, h.willing]
    exact ⟨⟨h.willing, h.direct, h.own⟩, hnext⟩
  | txSave s records =>
    obtain ⟨rfl, hnext⟩ := leads
    obtain ⟨after, hafter, hcalm, hview⟩ := h.save i records
    rw [hafter, hview]
    exact ⟨hcalm, hnext⟩
  | txCommit s =>
    obtain ⟨rfl, hnext⟩ := leads
    obtain ⟨after, hafter, hcalm, hview⟩ := h.commit i
    rw [hafter, hview]
    exact ⟨hcalm, hnext⟩
  | txDrop s =>
    obtain ⟨rfl, hnext⟩ := leads
    rw [← view_unstage] at hnext
    exact ⟨h.drop i _, hnext⟩
  | _ => exact absurd leads id

/-- What is loaded is what is stored. -/
theorem of_load {s : Uuid} {stored : List Record}
    (h : (store.respond i (.txLoad s)).1 = .ok stored) : stored = store.catalog.records s := by
  cases hr : store.refuses store.served (.txLoad s) with
  | some e =>
    simp only [respond, answer, hr] at h
    cases h
  | none =>
    simp only [respond, answer, hr] at h
    exact (Except.ok.inj h).symm

/-! ## Calls of the others -/

/-- What a call of worker `j` can do to the store. -/
inductive Served (j : Nat) (store : MemoryStore) : StoreCall → MemoryStore → Prop
  | kept (call : StoreCall) : Served j store call { store with served := store.served + 1 }
  | saved {call : StoreCall} (s : Uuid) (records : List Record)
      (what : call = .save s records ∨ (call = .txSave s records ∧ store.staging = false)) :
      Served j store call
        { store with catalog := store.catalog.save s records, served := store.served + 1 }
  | staged (s : Uuid) (records : List Record) (waits : store.staging = true) :
      Served j store (.txSave s records)
        { store with staged := store.staged ++ [(j, s, records)], served := store.served + 1 }
  | published (s : Uuid) :
      Served j store (.txCommit s) { store.publish j with served := store.served + 1 }
  | dropped (s : Uuid) :
      Served j store (.txDrop s) { store.unstage j with served := store.served + 1 }

theorem respond_served (store : MemoryStore) (j : Nat) (call : StoreCall) :
    Served j store call (store.respond j call).2 := by
  have hanswer : ∀ {β : Type} (refused : Option StoreError) (a : β),
      Served j store call
        (({ store with served := store.served + 1 } : MemoryStore).answer refused a).2 := by
    intro β refused a
    cases refused <;> exact .kept call
  have hperform : ∀ (refused : Option StoreError) (after : MemoryStore),
      Served j store call after → Served j store call
        (({ store with served := store.served + 1 } : MemoryStore).perform refused after).2 := by
    intro refused after h
    cases refused with
    | some e => exact .kept call
    | none => exact h
  cases call with
  | save s records => exact hperform _ _ (.saved s records (Or.inl rfl))
  | txSave s records =>
    refine hperform _ _ ?_
    cases hs : store.staging with
    | true =>
      have h : Served j store _ _ := .staged s records hs
      simpa [hs] using h
    | false =>
      have h : Served j store _ _ := .saved s records (Or.inr ⟨rfl, hs⟩)
      simpa [hs] using h
  | txCommit s =>
    simp only [respond]
    split
    · exact hperform _ _ (.published s)
    · exact .kept _
  | txDrop s => exact .dropped s
  | _ => exact hanswer _ _

variable {store' : MemoryStore} {call : StoreCall}

theorem Served.fixed (h : Served j store call store') :
    store'.catalog.scenes = store.catalog.scenes ∧ store'.staging = store.staging := by
  cases h with
  | published s => exact ⟨Catalog.scenes_saveAll _ _, rfl⟩
  | _ => exact ⟨rfl, rfl⟩

/-- The saves of a worker wait for nobody else's calls. -/
theorem Served.mine (h : Served j store call store') (hij : i ≠ j) :
    store'.mine i = store.mine i := by
  have hunstage : (store.unstage j).mine i = store.mine i := by rw [mine_unstage, if_neg hij]
  cases h with
  | staged s records waits =>
    refine (mine_append store i (j, s, records)).trans ?_
    rw [if_neg (Ne.symm hij), List.append_nil]
  | published s => exact hunstage
  | dropped s => exact hunstage
  | _ => rfl

/-- A stored list changes by calls of its scene only. -/
theorem Served.records (h : Served j store call store') (calm : Calm scene store)
    (of : call.Of (scene j)) {s : Uuid} (hs : scene j ≠ s) :
    store'.catalog.records s = store.catalog.records s := by
  cases h with
  | saved s' records what =>
    rcases what with rfl | ⟨rfl, -⟩
    · exact absurd of id
    · obtain rfl : s' = scene j := of
      exact (Catalog.records_save _ _ _ _).trans (if_neg (Ne.symm hs))
  | published s' =>
    -- what a worker publishes it has saved itself, and that was of its own scene
    refine Catalog.records_saveAll_of_ne (fun entry he => ?_) store.catalog
    obtain ⟨hmem, hj⟩ := List.mem_filter.mp he
    rw [calm.own entry hmem, of_decide_eq_true hj]
    exact hs
  | _ => rfl

theorem view_congr {i : Nat} {s : Uuid} (scenes : store'.catalog.scenes = store.catalog.scenes)
    (staging : store'.staging = store.staging) (mine : store'.mine i = store.mine i)
    (records : store'.catalog.records s = store.catalog.records s) :
    store'.view i s = store.view i s := by
  unfold view Catalog.scene?
  rw [scenes, staging, mine, records, Catalog.records_saveAll_congr _ records]

/-- **A call of another scene** is not seen. -/
theorem Served.view (h : Served j store call store') (calm : Calm scene store)
    (of : call.Of (scene j)) (hij : i ≠ j) {s : Uuid} (hs : scene j ≠ s) :
    store'.view i s = store.view i s :=
  view_congr h.fixed.1 h.fixed.2 (h.mine hij) (h.records calm of hs)

/-- Nor is it seen that another worker drops its transaction. -/
theorem view_drop (store : MemoryStore) (hij : i ≠ j) (s s' : Uuid) :
    (store.respond j (.txDrop s')).2.view i s = store.view i s :=
  view_congr rfl rfl ((respond_served store j (.txDrop s')).mine hij) rfl

end MemoryStore
end SceneCatalog
