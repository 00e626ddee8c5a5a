import SceneCatalog.Proofs.Fingerprints.Reconcile
import SceneCatalog.Proofs.Fingerprints.Sets

/-!
When an operation changes a collection. The outcomes that count as changes are reported exactly
when the collection afterwards is not the one from before.
-/
namespace SceneCatalog.SceneFingerprints

variable {s after : SceneFingerprints} {f : Fingerprint} {r : Record} {users : IdSet}
  {now : Timestamp} {acting : Uuid}

/-- A user is a submitter of a fingerprint. -/
def Backs (s : SceneFingerprints) (f : Fingerprint) (u : Uuid) : Prop :=
  ∃ r, s.get? f = some r ∧ u ∈ r.submitters

/-! ## Single records -/

theorem get?_of_mem (h : r ∈ s.records) : s.get? r.fingerprint = some r := by
  cases hq : s.get? r.fingerprint with
  | none => exact absurd rfl (get?_eq_none_iff.mp hq r h)
  | some q =>
    have hnodup : (s.records.map (·.fingerprint)).Nodup := List.pairwise_map.mpr s.distinct
    have hmem : q ∈ s.records := List.mem_of_find?_eq_some hq
    rw [List.inj_on_of_nodup_map hnodup hmem h (fingerprint_of_get? hq)]

/-- Crediting nobody new changes nothing. -/
theorem credit_of_gain (hr : s.get? f = some r) (h : r.gain users = 0) (now : Timestamp) :
    s.credit f users now = s := by
  have hsame : ∀ q ∈ s.records, (if q.fingerprint = f then q.credit users now else q) = q := by
    intro q hq
    by_cases hf : q.fingerprint = f
    · obtain rfl : q = r := Option.some.inj ((get?_of_mem hq).symm.trans (hf ▸ hr))
      rw [if_pos hf, Record.credit_of_gain h]
    · rw [if_neg hf]
  unfold credit mapRecords
  congr 1
  exact (List.map_congr_left hsame).trans (List.map_id _)

/-- Crediting somebody new makes a submitter. -/
theorem credit_backs (hr : s.get? f = some r) (h : 0 < r.gain users) (now : Timestamp) :
    ∃ u, (s.credit f users now).Backs f u ∧ ¬ s.Backs f u := by
  obtain ⟨u, hu, hnew⟩ := Record.exists_new_of_gain h
  refine ⟨u, ⟨r.credit users now, ?_, Record.mem_submitters_credit.mpr (Or.inr hu)⟩, ?_⟩
  · rw [get?_credit, if_pos rfl, hr]
    rfl
  · rintro ⟨q, hq, hmem⟩
    rw [hr] at hq
    cases hq
    exact hnew hmem

theorem ne_of_backs {u : Uuid} (h : after.Backs f u) (h' : ¬ s.Backs f u) : after ≠ s :=
  fun e => h' (e ▸ h)

theorem ne_of_get? (f : Fingerprint) (h : after.get? f ≠ s.get? f) : after ≠ s :=
  fun e => h (e ▸ rfl)

/-! ## Submitting and withdrawing -/

theorem submit_isChange_iff {claimed : Claimed} {outcome : SubmitOutcome} {record : Record}
    (h : s.submit claimed users now = .ok (outcome, record, after)) :
    outcome.isChange = true ↔ after ≠ s := by
  unfold submit at h
  split at h
  · cases h
  split at h
  · rename_i r hr
    cases h
    by_cases hg : r.gain users = 0
    · simp [hg, SubmitOutcome.isChange, credit_of_gain hr hg]
    · obtain ⟨u, hu, hnot⟩ := credit_backs hr (Nat.pos_of_ne_zero hg) now
      simp [hg, SubmitOutcome.isChange, ne_of_backs hu hnot]
  · rename_i hne _ hr
    cases h
    have hmade : s.append (Record.create claimed users now hne) ≠ s := by
      refine ne_of_get? claimed.fingerprint ?_
      rw [get?_append hr, hr]
      simp [Record.create]
    simp [SubmitOutcome.isChange, hmade]

/-- Taking a submitter out of a record leaves another record, or none. -/
theorem withdraw_ne_self (h : r.loss users ≠ 0) (now : Timestamp) :
    r.withdraw users now ≠ some r := by
  intro hw
  obtain ⟨-, -, hsub⟩ := Record.of_withdraw hw
  rw [Record.loss, ← hsub] at h
  exact h (Nat.sub_self _)

theorem retract_isChange_iff (s : SceneFingerprints) (f : Fingerprint) (users : IdSet)
    (now : Timestamp) :
    (s.retract f users now).1.isChange = true ↔ (s.retract f users now).2 ≠ s := by
  have hafter := get?_retract s f users now f
  rw [if_pos rfl] at hafter
  cases hr : s.get? f with
  | none =>
    have hsame : s.retract f users now = (.absent, s) := by
      unfold retract
      rw [hr]
    simp [hsame, RetractOutcome.isChange]
  | some r =>
    by_cases hl : r.loss users = 0
    · have hsame : s.retract f users now = (.unchanged, s) := by
        unfold retract
        rw [hr]
        exact if_pos hl
      simp [hsame, RetractOutcome.isChange]
    · have hchange : (s.retract f users now).1.isChange = true := by
        unfold retract
        rw [hr]
        simp only [if_neg hl]
        split <;> rfl
      refine ⟨fun _ => ne_of_get? f ?_, fun _ => hchange⟩
      rw [hafter, hr]
      exact withdraw_ne_self hl now

/-! ## Reconciling -/

/-- Where a reconciliation stands that started from a collection: it has counted nothing and left
the collection as it was, or it has counted something and made a submitter. -/
def Reconciling.Counts (start : SceneFingerprints) (state : Reconciling) : Prop :=
  (state.summary.added = 0 ∧ state.summary.corroborated = 0 ∧ state.current = start) ∨
    (0 < state.summary.added + state.summary.corroborated ∧
      ∃ f u, state.current.Backs f u ∧ ¬ start.Backs f u)

theorem Reconciling.Counts.apply {start : SceneFingerprints} {state : Reconciling}
    (h : state.Counts start) (edit : Edit) : (state.apply acting now edit).Counts start := by
  -- no entry takes a submitter out
  have hkeeps : ∀ {f u}, state.current.Backs f u →
      (state.apply acting now edit).current.Backs f u := by
    rintro f u ⟨r, hr, hu⟩
    unfold Backs
    rw [get?_apply, hr]
    by_cases hf : f = edit.fingerprint
    · rw [if_pos hf]
      exact ⟨_, rfl, Record.mem_submitters_credit.mpr (Or.inl hu)⟩
    · rw [if_neg hf]
      exact ⟨r, rfl, hu⟩
  rcases h with ⟨hadded, hcorroborated, rfl⟩ | ⟨hpos, f, u, hu, hnot⟩
  · cases hr : state.current.get? edit.fingerprint with
    | none =>
      obtain ⟨u, hu⟩ := IdSet.exists_mem_of_ne_empty (edit.founders_ne_empty acting)
      have hmade : (edit.touch acting now none).submitters = edit.founders acting := rfl
      refine Or.inr ⟨?_, edit.fingerprint, u, ⟨edit.touch acting now none, ?_, hmade ▸ hu⟩, ?_⟩
      · simp [Reconciling.apply, hr]
      · rw [get?_apply, if_pos rfl, hr]
      · rintro ⟨r, hr', -⟩
        rw [hr] at hr'
        cases hr'
    | some r =>
      by_cases hg : r.gain edit.named = 0
      · refine Or.inl ⟨?_, ?_, ?_⟩
        · simpa [Reconciling.apply, hr] using hadded
        · simpa [Reconciling.apply, hr, hg] using hcorroborated
        · simpa [Reconciling.apply, hr] using credit_of_gain hr hg now
      · obtain ⟨u, hu, hnot⟩ := credit_backs hr (Nat.pos_of_ne_zero hg) now
        refine Or.inr ⟨?_, edit.fingerprint, u, ?_, hnot⟩
        · simp [Reconciling.apply, hr, Nat.pos_of_ne_zero hg]
        · simpa [Reconciling.apply, hr] using hu
  · refine Or.inr ⟨?_, f, u, hkeeps hu, hnot⟩
    unfold Reconciling.apply
    split <;> dsimp only <;> omega

theorem Reconciling.Counts.foldl {start : SceneFingerprints} {state : Reconciling}
    (h : state.Counts start) (edits : List Edit) :
    (edits.foldl (Reconciling.apply acting now) state).Counts start := by
  induction edits generalizing state with
  | nil => exact h
  | cons edit edits ih => exact ih (h.apply edit)

theorem removed_foldl_apply (acting : Uuid) (now : Timestamp) (edits : List Edit)
    (state : Reconciling) :
    (edits.foldl (Reconciling.apply acting now) state).summary.removed =
      state.summary.removed := by
  induction edits generalizing state with
  | nil => rfl
  | cons edit edits ih =>
    rw [List.foldl_cons, ih]
    unfold Reconciling.apply
    split <;> rfl

/-- Leaving records out makes the collection shorter, or leaves it as it was. -/
theorem keep_cases (s : SceneFingerprints) (p : Record → Bool) :
    (s.records.length - (s.keep p).records.length = 0 ∧ s.keep p = s) ∨
      (0 < s.records.length - (s.keep p).records.length ∧ ∃ r ∈ s.records, p r = false) := by
  by_cases hall : ∀ r ∈ s.records, p r = true
  · have hfilter : s.records.filter p = s.records := List.filter_eq_self.mpr hall
    refine Or.inl ⟨?_, ?_⟩
    · simp [keep, hfilter]
    · simp only [keep, hfilter]
  · simp only [not_forall, Bool.not_eq_true] at hall
    obtain ⟨r, hr, hp⟩ := hall
    have hlt : (s.records.filter p).length < s.records.length :=
      List.length_filter_lt_length_iff_exists.mpr ⟨r, hr, by simp [hp]⟩
    exact Or.inr ⟨Nat.sub_pos_of_lt hlt, r, hr, hp⟩

theorem reconcile_isChange_iff {desired : List Edit} {summary : Summary}
    (h : s.reconcile desired acting now = .ok (summary, after)) :
    summary.isChange = true ↔ after ≠ s := by
  have hspec := fun f => reconcile_spec h f
  unfold reconcile at h
  split at h
  · cases h
  cases h
  have hkept := keep_cases s fun r => desired.any fun edit =>
    decide (edit.fingerprint = r.fingerprint)
  generalize (s.keep fun r => desired.any fun edit =>
    decide (edit.fingerprint = r.fingerprint)) = kept at *
  have hremoved := removed_foldl_apply acting now desired
    ⟨kept, ⟨0, 0, s.records.length - kept.records.length, 0⟩, []⟩
  have hcounts : Reconciling.Counts kept (desired.foldl (Reconciling.apply acting now)
      ⟨kept, ⟨0, 0, s.records.length - kept.records.length, 0⟩, []⟩) :=
    Reconciling.Counts.foldl (Or.inl ⟨rfl, rfl, rfl⟩) desired
  generalize desired.foldl (Reconciling.apply acting now) _ = final at *
  rcases hkept with ⟨hsame, rfl⟩ | ⟨hless, r, hr, hunwanted⟩
  · rcases hcounts with ⟨hadded, hcorroborated, hcurrent⟩ | ⟨hpos, f, u, hu, hnot⟩
    · simp [Summary.isChange, hadded, hcorroborated, hremoved, hcurrent]
    · have hchange : final.summary.isChange = true := by
        simp [Summary.isChange]
        omega
      simp [hchange, ne_of_backs hu hnot]
  · have hchange : final.summary.isChange = true := by
      simp [Summary.isChange, hremoved, hless]
    -- a record that has been left out is not made again, as no entry is about its fingerprint
    have hgone : final.current.get? r.fingerprint = none := by
      rcases hspec r.fingerprint with ⟨-, hgone⟩ | ⟨first, -, hfirst, -⟩
      · exact hgone
      · have hwanted := List.find?_some hfirst
        have hmem := List.mem_of_find?_eq_some hfirst
        rw [List.any_eq_false] at hunwanted
        exact absurd hwanted (hunwanted first hmem)
    refine ⟨fun _ => ne_of_get? r.fingerprint ?_, fun _ => hchange⟩
    rw [hgone, get?_of_mem hr]
    exact nofun

end SceneCatalog.SceneFingerprints
