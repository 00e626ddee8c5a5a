import SceneCatalog.Proofs.Fingerprints.Collection

/-!
What reconciling a collection makes of one fingerprint: its record is dropped if no entry is for
it, and otherwise goes through the entries for it, one after another.
-/
namespace SceneCatalog

/-- What an entry makes of the record that its fingerprint has. -/
def Edit.touch (acting : Uuid) (now : Timestamp) (edit : Edit) : Option Record → Record
  | some r => r.credit edit.named now
  | none => Record.create edit.claimed (edit.founders acting) now (edit.founders_ne_empty acting)

theorem Edit.mem_named {edit : Edit} {u : Uuid} :
    u ∈ edit.named ↔ ∃ ids, edit.users = some ids ∧ u ∈ ids := by
  unfold named
  cases edit.users with
  | none => simp
  | some ids => simp

/-- The users that an entry names, or the acting user if it does not name users, make a record. -/
theorem Edit.mem_founders {edit : Edit} (h : edit.namesNobody = false) {acting u : Uuid} :
    u ∈ edit.founders acting ↔ u ∈ edit.named ∨ (u = acting ∧ edit.users = none) := by
  rw [mem_named]
  unfold founders
  unfold namesNobody at h
  split
  · rename_i user users hu
    simp [hu]
  · rename_i hu
    cases he : edit.users with
    | none => simp
    | some ids =>
      cases ids with
      | nil => simp [he] at h
      | cons user users => exact absurd he (hu user users)

namespace SceneFingerprints

variable {s : SceneFingerprints} {acting : Uuid} {now : Timestamp}

theorem get?_apply (state : Reconciling) (edit : Edit) (f : Fingerprint) :
    (state.apply acting now edit).current.get? f =
      if f = edit.fingerprint then some (Edit.touch acting now edit (state.current.get? f))
      else state.current.get? f := by
  unfold Reconciling.apply
  split
  · rename_i r hr
    rw [get?_credit]
    by_cases hf : f = edit.fingerprint
    · rw [if_pos hf, if_pos hf, hf, hr]
      rfl
    · rw [if_neg hf, if_neg hf]
  · rename_i hr
    rw [get?_append hr]
    by_cases hf : f = edit.fingerprint
    · rw [if_pos hf, hf, hr]
      exact if_pos rfl
    · rw [if_neg hf]
      exact if_neg hf

/-- The entries for other fingerprints do not matter. -/
theorem get?_foldl_apply (edits : List Edit) (state : Reconciling) (f : Fingerprint) :
    (edits.foldl (Reconciling.apply acting now) state).current.get? f =
      (edits.filter (·.fingerprint = f)).foldl (fun o edit => some (edit.touch acting now o))
        (state.current.get? f) := by
  induction edits generalizing state with
  | nil => rfl
  | cons edit edits ih =>
    rw [List.foldl_cons, ih, get?_apply]
    by_cases hf : edit.fingerprint = f
    · rw [List.filter_cons_of_pos (by simpa using hf), if_pos hf.symm]
      rfl
    · rw [List.filter_cons_of_neg (by simpa using hf), if_neg (Ne.symm hf)]

theorem get?_reconcile {desired : List Edit} {summary : Summary} {after : SceneFingerprints}
    (h : s.reconcile desired acting now = .ok (summary, after)) (f : Fingerprint) :
    desired.any Edit.namesNobody = false ∧
      after.get? f = (desired.filter (·.fingerprint = f)).foldl
        (fun o edit => some (edit.touch acting now o))
        (if desired.any (·.fingerprint = f) then s.get? f else none) := by
  unfold reconcile at h
  split at h
  · cases h
  · rename_i hnobody
    cases h
    refine ⟨by simpa using hnobody, ?_⟩
    rw [get?_foldl_apply]
    rw [get?_keep s (fun g => desired.any fun edit => decide (edit.fingerprint = g))]

/-- Entries for a fingerprint that has a record add the users they name. -/
theorem foldl_touch_some (acting : Uuid) (now : Timestamp) (edits : List Edit) (r : Record) :
    ∃ r', edits.foldl (fun o edit => some (edit.touch acting now o)) (some r) = some r' ∧
      r'.duration = r.duration ∧ r'.created = r.created ∧
        ∀ u, u ∈ r'.submitters ↔ u ∈ r.submitters ∨ ∃ edit ∈ edits, u ∈ edit.named := by
  induction edits generalizing r with
  | nil => exact ⟨r, rfl, rfl, rfl, fun u => by simp⟩
  | cons edit edits ih =>
    obtain ⟨r', hr, hduration, hcreated, hmem⟩ := ih (r.credit edit.named now)
    refine ⟨r', hr, hduration, hcreated, fun u => ?_⟩
    rw [hmem, Record.mem_submitters_credit]
    simp [or_assoc]

/-- What is wanted decides which fingerprints have a record. One that had a record keeps its
duration and time of creation and gains the users named with it; another has a record made by its
first entry, and gains those named with the others. -/
theorem reconcile_spec {desired : List Edit} {summary : Summary} {after : SceneFingerprints}
    (h : s.reconcile desired acting now = .ok (summary, after)) (f : Fingerprint) :
    ((∀ edit ∈ desired, edit.fingerprint ≠ f) ∧ after.get? f = none) ∨
      ∃ first r', desired.find? (·.fingerprint = f) = some first ∧ after.get? f = some r' ∧
        ((∃ r, s.get? f = some r ∧ r'.duration = r.duration ∧ r'.created = r.created ∧
            ∀ u, u ∈ r'.submitters ↔ u ∈ r.submitters ∨
              ∃ edit ∈ desired, edit.fingerprint = f ∧ u ∈ edit.named) ∨
          (s.get? f = none ∧ r'.duration = first.claimed.duration ∧ r'.created = now ∧
            ∀ u, u ∈ r'.submitters ↔ (u = acting ∧ first.users = none) ∨
              ∃ edit ∈ desired, edit.fingerprint = f ∧ u ∈ edit.named)) := by
  obtain ⟨hnobody, hafter⟩ := get?_reconcile h f
  have hmem : ∀ edit, edit ∈ desired.filter (·.fingerprint = f) ↔
      edit ∈ desired ∧ edit.fingerprint = f := fun edit => by simp
  -- by the entries for the fingerprint: the first makes or finds the record, the others add to it
  cases he : desired.filter (·.fingerprint = f) with
  | nil =>
    have hnone : ∀ edit ∈ desired, edit.fingerprint ≠ f := by
      intro edit hedit hf
      have := (hmem edit).mpr ⟨hedit, hf⟩
      rw [he] at this
      exact absurd this List.not_mem_nil
    have hany : desired.any (·.fingerprint = f) = false := by simpa using hnone
    rw [he, hany] at hafter
    exact Or.inl ⟨hnone, hafter⟩
  | cons first rest =>
    have hfirst : first ∈ desired ∧ first.fingerprint = f := by
      rw [← hmem, he]
      exact List.mem_cons_self
    have hany : desired.any (·.fingerprint = f) = true := by
      rw [List.any_eq_true]
      exact ⟨first, hfirst.1, by simpa using hfirst.2⟩
    have hfind : desired.find? (·.fingerprint = f) = some first := by
      rw [← List.head?_filter, he]
      rfl
    have hentries : ∀ u, (∃ edit ∈ first :: rest, u ∈ edit.named) ↔
        ∃ edit ∈ desired, edit.fingerprint = f ∧ u ∈ edit.named := by
      intro u
      rw [← he]
      simp only [hmem, and_assoc]
    rw [he, hany, if_pos rfl] at hafter
    cases hr : s.get? f with
    | some r =>
      rw [hr] at hafter
      obtain ⟨r', hr', hduration, hcreated, hsub⟩ :=
        foldl_touch_some acting now (first :: rest) r
      refine Or.inr ⟨first, r', hfind, hafter.trans hr', Or.inl ⟨r, rfl, hduration, hcreated, ?_⟩⟩
      intro u
      rw [hsub, hentries]
    | none =>
      rw [hr, List.foldl_cons] at hafter
      obtain ⟨r', hr', hduration, hcreated, hsub⟩ := foldl_touch_some acting now rest
        (first.touch acting now none)
      refine Or.inr ⟨first, r', hfind, hafter.trans hr', Or.inr ⟨rfl, hduration, hcreated, ?_⟩⟩
      intro u
      have hnamed : first.namesNobody = false := by
        rw [List.any_eq_false] at hnobody
        simpa using hnobody first hfirst.1
      have hfounders : u ∈ (first.touch acting now none).submitters ↔
          u ∈ first.named ∨ (u = acting ∧ first.users = none) := Edit.mem_founders hnamed
      rw [hsub, hfounders, ← hentries, List.exists_mem_cons_iff]
      rw [or_comm (a := u ∈ first.named), or_assoc]

end SceneFingerprints
end SceneCatalog
