import SceneCatalog.Proofs.Consensus.Writes
import SceneCatalog.Proofs.Fingerprints.Merging

/-!
Who is recorded behind the fingerprints of a catalog, and what one change makes of it. Of the
stored lists it only matters who is named where: a list that repeats a fingerprint names a user
where one of its records does.
-/
namespace SceneCatalog

/-! ## Catalogs -/

namespace Catalog

variable {c : Catalog} {scene : Uuid} {f : Fingerprint} {u : Uuid}

/-- A user is recorded as a submitter of a fingerprint of a scene. -/
def Backs (c : Catalog) (scene : Uuid) (f : Fingerprint) (u : Uuid) : Prop :=
  ∃ r ∈ c.records scene, r.fingerprint = f ∧ u ∈ r.submitters

theorem backs_iff_ofRecords :
    c.Backs scene f u ↔ (SceneFingerprints.ofRecords (c.records scene)).Backs f u :=
  (SceneFingerprints.backs_ofRecords _).symm

theorem backs_save (c : Catalog) (saved : Uuid) (s : SceneFingerprints) :
    (c.save saved s.records).Backs scene f u ↔
      if scene = saved then s.Backs f u else c.Backs scene f u := by
  unfold Backs
  rw [records_save]
  split
  · exact SceneFingerprints.backs_iff_mem.symm
  · rfl

end Catalog

/-! ## One change -/

variable {change : Change} {now : Timestamp} {before : SceneFingerprints} {f : Fingerprint}
  {u : Uuid}

/-- Whoever names nobody credits nobody else. -/
theorem Change.eq_acting_of_credits (h : change.namesUsers = false)
    (credits : change.Credits before f u) : u = change.acting := by
  cases change with
  | submit s =>
    obtain ⟨scene, claimed, acting, users⟩ := s
    obtain rfl : users = none := by simpa [namesUsers] using h
    obtain ⟨-, users, husers, hu⟩ := credits
    cases husers
    exact IdSet.mem_singleton.mp hu
  | retract r => exact credits.elim
  | reconcile r =>
    rcases credits with ⟨edit, hedit, -, ids, hids, -⟩ | ⟨-, hu, -⟩
    · have hnone : edit.users.isSome = false := by
        simpa using List.any_eq_false.mp h edit hedit
      simp [hids] at hnone
    · exact hu

/-- Whoever withdraws and names nobody withdraws nobody else; only a reconciliation may. -/
theorem Change.eq_acting_of_withdraws (h : change.namesUsers = false)
    (single : ∀ r, change ≠ .reconcile r) (withdraws : change.Withdraws f u) :
    u = change.acting := by
  cases change with
  | submit s => exact withdraws.elim
  | retract r =>
    obtain ⟨scene, fingerprint, acting, users⟩ := r
    obtain rfl : users = none := by simpa [namesUsers] using h
    obtain ⟨-, users, husers, hu⟩ := withdraws
    cases husers
    exact IdSet.mem_singleton.mp hu
  | reconcile r => exact absurd rfl (single r)

/-- **What a change leaves behind** in a store where nothing was staged: the catalog from before,
or the one in which the change has been applied to the collection of its scene. -/
theorem Change.leaves (change : Change) (now : Timestamp) (store : MemoryStore) (i : Nat)
    (clean : store.staged = []) :
    let t := Running.transcript (MemoryStore.respond i) (change.run now : Work ChangeReply) store
    t.state.staged = [] ∧
      (t.state.catalog = store.catalog ∨
        ∃ after, change.applied now (.ofRecords (store.catalog.records change.scene)) = .ok after ∧
          t.state.catalog = store.catalog.save change.scene after.records) := by
  intro t
  rcases change.course now (MemoryStore.respond i) store with
    ⟨e, -, hrefused⟩ | ⟨effect, saved, planned, course, answers⟩
  · have hstate : t.state = store := congrArg Dialogue.Transcript.state hrefused
    rw [hstate]
    exact ⟨clean, Or.inl rfl⟩
  have hfinal : t.state = _ := course.stores answers clean
  rw [hfinal]
  refine ⟨clean, ?_⟩
  cases saved with
  | none => exact Or.inl rfl
  | some after =>
    refine Or.inr ⟨after, ?_, rfl⟩
    generalize Running.transcript (MemoryStore.respond i) (change.run now) store = t at *
    obtain ⟨result, final, made⟩ := t
    dsimp only at course answers
    -- the only course that stores something loads what is stored and goes by the plan
    cases course with
    | written h =>
      obtain rfl := answers.of_load
      obtain ⟨after', happlied, -, hsaved⟩ := Change.effect_spec planned h
      split at hsaved
      · cases hsaved
        exact happlied
      · cases hsaved

/-- Who is recorded after a change that has been applied. -/
theorem Change.backs_iff {c : Catalog} {after : SceneFingerprints}
    (h : change.applied now (.ofRecords (c.records change.scene)) = .ok after) (scene : Uuid)
    (f : Fingerprint) (u : Uuid) :
    (c.save change.scene after.records).Backs scene f u ↔
      if scene = change.scene then
        (c.Backs scene f u ∧ ¬ change.Withdraws f u) ∨
          change.Credits (.ofRecords (c.records change.scene)) f u
      else c.Backs scene f u := by
  rw [Catalog.backs_save]
  split
  · rename_i hscene
    rw [Catalog.backs_iff_ofRecords, hscene]
    exact Change.submitters_iff h f u
  · rfl

end SceneCatalog
