import SceneCatalog.Proofs.Fingerprints.Difference

/-!
What submitting and withdrawing make of the list of records. Main statement: the outcome and the
collection afterwards are told by the submitters of one record and the users, and every other record
stays where it was and as it was.
-/
namespace SceneCatalog

/-! ## Counting users -/

namespace Record

theorem gain_eq_ncard (r : Record) (users : IdSet) :
    r.gain users = {u | u ∈ users ∧ u ∉ r.submitters}.ncard := by
  rw [gain, IdSet.size_eq_ncard]
  simp only [IdSet.mem_sdiff]

theorem loss_eq_ncard (r : Record) (users : IdSet) :
    r.loss users = {u | u ∈ users ∧ u ∈ r.submitters}.ncard := by
  have hfinite : {u | u ∈ r.submitters}.Finite := r.submitters.toList.finite_toSet
  have hparts := Set.ncard_inter_add_ncard_sdiff_eq_ncard _ {u | u ∈ users} hfinite
  have hinter : {u | u ∈ r.submitters} ∩ {u | u ∈ users} =
      {u | u ∈ users ∧ u ∈ r.submitters} := Set.inter_comm _ _
  have hdiff : (r.submitters \ users).size = ({u | u ∈ r.submitters} \ {u | u ∈ users}).ncard := by
    rw [IdSet.size_eq_ncard]
    simp only [IdSet.mem_sdiff]
    rfl
  rw [loss, hdiff, IdSet.size_eq_ncard, ← hinter]
  omega

/-- Nobody is taken out of a record if none of the users is a submitter. -/
theorem loss_eq_zero_iff {r : Record} {users : IdSet} :
    r.loss users = 0 ↔ ∀ u ∈ users, u ∉ r.submitters := by
  have hfinite : {u | u ∈ users ∧ u ∈ r.submitters}.Finite :=
    r.submitters.toList.finite_toSet.subset fun u hu => hu.2
  rw [loss_eq_ncard, Set.ncard_eq_zero hfinite, Set.eq_empty_iff_forall_notMem]
  exact forall_congr' fun u => not_and

/-- Taking a submitter out counts as an update. -/
theorem updated_withdraw {r left : Record} {users : IdSet} {now : Timestamp}
    (h : r.withdraw users now = some left) (hloss : r.loss users ≠ 0) : left.updated = now := by
  unfold withdraw at h
  rw [if_neg hloss] at h
  split at h
  · cases h
  · cases h
    rfl

end Record

namespace SceneFingerprints

variable {s after : SceneFingerprints} {r : Record} {before behind : List Record}

/-! ## The place of a record -/

/-- One record has taken the place of another, and the records around it are as they were. It may
differ in its submitters, and counts as updated if it does. -/
structure Replaced (s after : SceneFingerprints) (now : Timestamp) (r r' : Record) : Prop where
  place : ∃ before behind,
    s.records = before ++ r :: behind ∧ after.records = before ++ r' :: behind
  fingerprint : r'.fingerprint = r.fingerprint
  duration : r'.duration = r.duration
  created : r'.created = r.created
  updated : r'.updated = if r'.submitters = r.submitters then r.updated else now

/-- No other record is for the same fingerprint. -/
theorem fingerprint_ne_of_place (h : s.records = before ++ r :: behind) :
    (∀ q ∈ before, q.fingerprint ≠ r.fingerprint) ∧
      ∀ q ∈ behind, q.fingerprint ≠ r.fingerprint := by
  have hdistinct := s.distinct
  rw [h, List.pairwise_append, List.pairwise_cons] at hdistinct
  obtain ⟨-, ⟨hbehind, -⟩, hbefore⟩ := hdistinct
  exact ⟨fun q hq => hbefore q hq r List.mem_cons_self, fun q hq => (hbehind q hq).symm⟩

/-- Changing one record leaves the others in their places. -/
theorem map_place (h : s.records = before ++ r :: behind) (change : Record → Record)
    (others : ∀ q, q.fingerprint ≠ r.fingerprint → change q = q) :
    s.records.map change = before ++ change r :: behind := by
  obtain ⟨hbefore, hbehind⟩ := fingerprint_ne_of_place h
  have hsame : ∀ l : List Record, (∀ q ∈ l, q.fingerprint ≠ r.fingerprint) → l.map change = l :=
    fun l hl => (List.map_congr_left fun q hq => others q (hl q hq)).trans (List.map_id _)
  rw [h, List.map_append, List.map_cons, hsame before hbefore, hsame behind hbehind]

theorem records_credit (h : s.records = before ++ r :: behind) (users : IdSet) (now : Timestamp) :
    (s.credit r.fingerprint users now).records = before ++ r.credit users now :: behind := by
  have hmap := map_place h
    (fun q => if q.fingerprint = r.fingerprint then q.credit users now else q)
    fun q hq => if_neg hq
  rwa [if_pos rfl] at hmap

theorem records_remove (h : s.records = before ++ r :: behind) :
    (s.remove r.fingerprint).records = before ++ behind := by
  obtain ⟨hbefore, hbehind⟩ := fingerprint_ne_of_place h
  have hsame : ∀ l : List Record, (∀ q ∈ l, q.fingerprint ≠ r.fingerprint) →
      l.filter (fun q => !decide (q.fingerprint = r.fingerprint)) = l :=
    fun l hl => List.filter_eq_self.mpr fun q hq => by simp [hl q hq]
  have hgone : (!decide (r.fingerprint = r.fingerprint)) = false := by simp
  change s.records.filter _ = _
  rw [h, List.filter_append, hsame before hbefore, List.filter_cons, hgone, hsame behind hbehind]
  rfl

/-! ## Submitting -/

/-- The collection that is there when a submission has been tried. -/
def submitted (s : SceneFingerprints) (claimed : Claimed) (users : IdSet) (now : Timestamp) :
    SceneFingerprints :=
  match s.submit claimed users now with
  | .ok (_, _, after) => after
  | .error _ => s

/-- The outcomes of submitting: what is told, the record that is given back, and the collection
afterwards. -/
inductive Submits (s : SceneFingerprints) (claimed : Claimed) (users : IdSet) (now : Timestamp) :
    SubmitOutcome → Record → SceneFingerprints → Prop
  /-- Without a record for the fingerprint, one is put at the end. -/
  | created {r' : Record} {after : SceneFingerprints}
      (missing : ∀ q ∈ s.records, q.fingerprint ≠ claimed.fingerprint)
      (fingerprint : r'.fingerprint = claimed.fingerprint)
      (duration : r'.duration = claimed.duration)
      (submitters : r'.submitters = users) (times : r'.created = now ∧ r'.updated = now)
      (records : after.records = s.records ++ [r']) :
      Submits s claimed users now .created r' after
  /-- Where all of the users are submitters already, nothing happens. -/
  | unchanged {r : Record} (here : r ∈ s.records)
      (fingerprint : r.fingerprint = claimed.fingerprint)
      (known : ∀ u ∈ users, u ∈ r.submitters) :
      Submits s claimed users now .unchanged r s
  /-- The users join the submitters, and those who are new are counted. -/
  | corroborated {r r' : Record} {after : SceneFingerprints}
      (fingerprint : r.fingerprint = claimed.fingerprint) (more : ∃ u ∈ users, u ∉ r.submitters)
      (replaced : Replaced s after now r r')
      (submitters : ∀ u, u ∈ r'.submitters ↔ u ∈ r.submitters ∨ u ∈ users) :
      Submits s claimed users now (.corroborated {u | u ∈ users ∧ u ∉ r.submitters}.ncard) r' after

theorem replaced_credit (h : r ∈ s.records) (users : IdSet) (now : Timestamp) :
    Replaced s (s.credit r.fingerprint users now) now r (r.credit users now) := by
  obtain ⟨before, behind, hplace⟩ := List.append_of_mem h
  refine ⟨⟨before, behind, hplace, records_credit hplace users now⟩, rfl, rfl, rfl, ?_⟩
  by_cases hgain : r.gain users = 0
  · rw [Record.credit_of_gain hgain, if_pos rfl]
  · obtain ⟨u, hu, hnew⟩ := Record.exists_new_of_gain (Nat.pos_of_ne_zero hgain)
    have hmore : (r.credit users now).submitters ≠ r.submitters := fun hsame =>
      hnew (hsame ▸ Record.mem_submitters_credit.mpr (Or.inr hu))
    rw [if_neg hmore]
    exact if_neg hgain

theorem submit_outcome (s : SceneFingerprints) (claimed : Claimed) {users : IdSet}
    (some : users ≠ ∅) (now : Timestamp) :
    ∃ outcome r', s.submit claimed users now = .ok (outcome, r', s.submitted claimed users now) ∧
      Submits s claimed users now outcome r' (s.submitted claimed users now) := by
  unfold submitted submit
  rw [dif_neg some]
  cases hr : s.get? claimed.fingerprint with
  | none =>
    refine ⟨_, _, rfl, .created (get?_eq_none_iff.mp hr) rfl rfl rfl ⟨rfl, rfl⟩ ?_⟩
    exact congrArg records (dif_pos hr)
  | some r =>
    have hhere : r ∈ s.records := List.mem_of_find?_eq_some hr
    have hfingerprint : r.fingerprint = claimed.fingerprint := fingerprint_of_get? hr
    refine ⟨_, _, rfl, ?_⟩
    dsimp only
    by_cases hgain : r.gain users = 0
    · rw [if_pos hgain, Record.credit_of_gain hgain, credit_of_gain hr hgain]
      refine .unchanged hhere hfingerprint fun u hu => ?_
      by_contra hnew
      exact (Record.gain_pos_iff.mpr ⟨u, hu, hnew⟩).ne' hgain
    · rw [if_neg hgain, Record.gain_eq_ncard, ← hfingerprint]
      exact .corroborated hfingerprint (Record.exists_new_of_gain (Nat.pos_of_ne_zero hgain))
        (replaced_credit hhere users now) fun u => Record.mem_submitters_credit

/-! ## Withdrawing -/

/-- The outcomes of withdrawing: what is told, and the collection afterwards. -/
inductive Retracts (s : SceneFingerprints) (f : Fingerprint) (users : IdSet) (now : Timestamp) :
    RetractOutcome → SceneFingerprints → Prop
  | absent (missing : ∀ q ∈ s.records, q.fingerprint ≠ f) : Retracts s f users now .absent s
  /-- Where none of the users is a submitter, nothing happens. -/
  | unchanged {r : Record} (here : r ∈ s.records) (fingerprint : r.fingerprint = f)
      (strangers : ∀ u ∈ users, u ∉ r.submitters) :
      Retracts s f users now .unchanged s
  /-- Where no submitter is left, the record goes, and the records around it close up. -/
  | removed {r : Record} {before behind : List Record} {after : SceneFingerprints}
      (place : s.records = before ++ r :: behind) (fingerprint : r.fingerprint = f)
      (all : ∀ u ∈ r.submitters, u ∈ users) (records : after.records = before ++ behind) :
      Retracts s f users now .removed after
  /-- The users leave the submitters, and those who were among them are counted. -/
  | retracted {r r' : Record} {after : SceneFingerprints} (fingerprint : r.fingerprint = f)
      (fewer : ∃ u ∈ users, u ∈ r.submitters) (left : ∃ u ∈ r.submitters, u ∉ users)
      (replaced : Replaced s after now r r')
      (submitters : ∀ u, u ∈ r'.submitters ↔ u ∈ r.submitters ∧ u ∉ users) :
      Retracts s f users now (.retracted {u | u ∈ users ∧ u ∈ r.submitters}.ncard) after

theorem replaced_withdraw {left : Record} {users : IdSet} {now : Timestamp} (h : r ∈ s.records)
    (hw : r.withdraw users now = some left) (hloss : r.loss users ≠ 0)
    (hrecords : after.records = s.records.map fun q => if q = r then left else q) :
    Replaced s after now r left := by
  obtain ⟨before, behind, hplace⟩ := List.append_of_mem h
  obtain ⟨hduration, hcreated, hsub⟩ := Record.of_withdraw hw
  refine ⟨⟨before, behind, hplace, ?_⟩, Record.fingerprint_withdraw hw, hduration, hcreated, ?_⟩
  · have hmap := map_place hplace (fun q => if q = r then left else q)
      fun q hq => if_neg fun (he : q = r) => hq (he ▸ rfl)
    rw [hrecords, hmap, if_pos rfl]
  · have hfewer : left.submitters ≠ r.submitters := by
      intro hsame
      rw [hsub] at hsame
      exact hloss (by rw [Record.loss, hsame, Nat.sub_self])
    rw [if_neg hfewer]
    exact Record.updated_withdraw hw hloss

theorem retract_outcome (s : SceneFingerprints) (f : Fingerprint) (users : IdSet)
    (now : Timestamp) :
    Retracts s f users now (s.retract f users now).1 (s.retract f users now).2 := by
  unfold retract
  cases hr : s.get? f with
  | none => exact .absent (get?_eq_none_iff.mp hr)
  | some r =>
    have hhere : r ∈ s.records := List.mem_of_find?_eq_some hr
    have hfingerprint : r.fingerprint = f := fingerprint_of_get? hr
    obtain ⟨before, behind, hplace⟩ := List.append_of_mem hhere
    dsimp only
    by_cases hloss : r.loss users = 0
    · rw [if_pos hloss]
      exact .unchanged hhere hfingerprint (Record.loss_eq_zero_iff.mp hloss)
    · rw [if_neg hloss]
      split
      · rename_i hw
        refine .removed hplace hfingerprint (fun u => Record.mem_of_withdraw_none hw) ?_
        rw [← hfingerprint]
        exact records_remove hplace
      · rename_i left hw
        have hsub := (Record.of_withdraw hw).2.2
        obtain ⟨u, hu⟩ := IdSet.exists_mem_of_ne_empty left.backed
        rw [hsub, IdSet.mem_sdiff] at hu
        rw [Record.loss_eq_ncard]
        refine .retracted hfingerprint ?_ ⟨u, hu⟩ (replaced_withdraw hhere hw hloss rfl) fun v => ?_
        · rw [Record.loss_eq_zero_iff] at hloss
          simpa using hloss
        · rw [hsub, IdSet.mem_sdiff]

/-- **What submitting and withdrawing make of a collection.** Submitting nobody is refused and
leaves the collection as it is. Submitting somebody, and withdrawing anybody, has one of its
outcomes. -/
theorem submits_and_retracts (s : SceneFingerprints) (f : Fingerprint) (duration : UInt32)
    (users : IdSet) (now : Timestamp) :
    ((users = ∅ ∧ s.submit ⟨f, duration⟩ users now = .error .emptySubmitters ∧
          s.submitted ⟨f, duration⟩ users now = s) ∨
        (users ≠ ∅ ∧ ∃ outcome r',
          s.submit ⟨f, duration⟩ users now =
            .ok (outcome, r', s.submitted ⟨f, duration⟩ users now) ∧
          Submits s ⟨f, duration⟩ users now outcome r' (s.submitted ⟨f, duration⟩ users now))) ∧
      Retracts s f users now (s.retract f users now).1 (s.retract f users now).2 := by
  refine ⟨?_, retract_outcome s f users now⟩
  by_cases hnone : users = ∅
  · have herror : s.submit ⟨f, duration⟩ users now = .error .emptySubmitters := dif_pos hnone
    exact Or.inl ⟨hnone, herror, by rw [submitted, herror]⟩
  · exact Or.inr ⟨hnone, submit_outcome s ⟨f, duration⟩ hnone now⟩

end SceneFingerprints
end SceneCatalog
