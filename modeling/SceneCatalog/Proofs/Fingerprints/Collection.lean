import Mathlib.Data.Set.Card
import SceneCatalog.SceneFingerprints

/-!
A collection seen one fingerprint at a time. Each operation is described by what it makes of the
record that a given fingerprint has: adding, taking out and reconciling touch a record through the
entries for its fingerprint and no others.
-/
namespace SceneCatalog

/-! ## Sets and records -/

theorem IdSet.size_eq_ncard (s : IdSet) : s.size = {x | x ∈ s}.ncard := by
  have hnodup : s.toList.Nodup := s.sorted.imp fun h => Uuid.ne_of_lt h
  have hset : {x | x ∈ s} = (s.toList.toFinset : Set Uuid) := by
    ext x
    rw [List.coe_toFinset]
    exact Iff.rfl
  rw [hset, Set.ncard_coe_finset, List.toFinset_card_of_nodup hnodup]
  rfl

/-- A set that is not made smaller loses nothing. -/
theorem IdSet.sdiff_eq_self_of_size {s t : IdSet} (h : s.size - (s \ t).size = 0) : s \ t = s := by
  obtain ⟨xs, hs⟩ := s
  have hle : (xs.filter fun x => !decide (x ∈ t)).length ≤ xs.length := List.length_filter_le _ _
  have hlen : (xs.filter fun x => !decide (x ∈ t)).length = xs.length := by
    have h : xs.length - (xs.filter fun x => !decide (x ∈ t)).length = 0 := h
    omega
  have hall := List.filter_eq_self.mpr (List.length_filter_eq_length_iff.mp hlen)
  change IdSet.mk (xs.filter fun x => !decide (x ∈ t)) _ = _
  simp only [hall]

namespace Record

@[simp] theorem mem_submitters_credit {r : Record} {users : IdSet} {now : Timestamp} {u : Uuid} :
    u ∈ (r.credit users now).submitters ↔ u ∈ r.submitters ∨ u ∈ users :=
  IdSet.mem_union

/-- What is left of a record keeps its fingerprint, duration and time of creation. -/
theorem of_withdraw {r left : Record} {users : IdSet} {now : Timestamp}
    (h : r.withdraw users now = some left) :
    left.duration = r.duration ∧ left.created = r.created ∧
      left.submitters = r.submitters \ users := by
  unfold withdraw at h
  split at h
  · cases h
  · cases h
    exact ⟨rfl, rfl, rfl⟩

theorem mem_of_withdraw_none {r : Record} {users : IdSet} {now : Timestamp}
    (h : r.withdraw users now = none) {u : Uuid} (hu : u ∈ r.submitters) : u ∈ users := by
  unfold withdraw at h
  split at h
  · rename_i hempty
    by_contra hnot
    have hleft : u ∈ r.submitters \ users := IdSet.mem_sdiff.mpr ⟨hu, hnot⟩
    rw [hempty] at hleft
    exact IdSet.not_mem_empty u hleft
  · cases h

/-- Taking users out who are no submitters changes nothing. -/
theorem withdraw_of_loss {r : Record} {users : IdSet} (h : r.loss users = 0) (now : Timestamp) :
    r.withdraw users now = some r := by
  have hsame : r.submitters \ users = r.submitters := IdSet.sdiff_eq_self_of_size h
  have hne : ¬ r.submitters \ users = ∅ := fun he => r.backed (hsame.symm.trans he)
  rw [withdraw, dif_neg hne]
  simp only [hsame, h, if_true]

end Record

namespace SceneFingerprints

/-! ## Looking a fingerprint up -/

variable {s : SceneFingerprints} {f g : Fingerprint} {r : Record}

theorem get?_mapRecords (s : SceneFingerprints) (change : Record → Record)
    (h : ∀ r, (change r).fingerprint = r.fingerprint) (f : Fingerprint) :
    (s.mapRecords change h).get? f = (s.get? f).map change := by
  unfold get? mapRecords
  rw [List.find?_map]
  congr 2
  funext r
  simp [h]

theorem get?_credit (s : SceneFingerprints) (g : Fingerprint) (users : IdSet) (now : Timestamp)
    (f : Fingerprint) :
    (s.credit g users now).get? f =
      if f = g then (s.get? f).map fun r => r.credit users now else s.get? f := by
  unfold credit
  rw [get?_mapRecords]
  cases h : s.get? f with
  | none => simp
  | some r =>
    by_cases hf : f = g
    · simp [hf, fingerprint_of_get? h]
    · simp [hf, fingerprint_of_get? h]

theorem fingerprints_credit (s : SceneFingerprints) (g : Fingerprint) (users : IdSet)
    (now : Timestamp) : (s.credit g users now).fingerprints = s.fingerprints := by
  simp only [credit, mapRecords, fingerprints, List.map_map]
  refine List.map_congr_left fun q _ => ?_
  by_cases hq : q.fingerprint = g <;> simp [hq]

theorem fingerprints_append (h : s.get? r.fingerprint = none) :
    (s.append r).fingerprints = s.fingerprints ++ [r.fingerprint] := by
  simp only [append, dif_pos h, fingerprints, List.map_append]
  rfl

theorem get?_append (h : s.get? r.fingerprint = none) (f : Fingerprint) :
    (s.append r).get? f = if f = r.fingerprint then some r else s.get? f := by
  unfold append
  rw [dif_pos h]
  by_cases hf : f = r.fingerprint
  · subst hf
    have hnone : s.records.find? (fun q => decide (q.fingerprint = r.fingerprint)) = none := h
    simp [get?, List.find?_append, hnone]
  · have hne : decide (r.fingerprint = f) = false := decide_eq_false (Ne.symm hf)
    simp [get?, List.find?_append, hne, hf]

/-- Leaving records out by their fingerprints. -/
theorem get?_keep (s : SceneFingerprints) (p : Fingerprint → Bool) (f : Fingerprint) :
    (s.keep fun r => p r.fingerprint).get? f = if p f then s.get? f else none := by
  unfold get? keep
  rw [List.find?_filter]
  by_cases hp : p f = true
  · rw [if_pos hp]
    congr 1
    funext r
    by_cases hr : r.fingerprint = f <;> simp [hr, hp]
  · rw [if_neg hp, List.find?_eq_none]
    intro r _
    by_cases hr : r.fingerprint = f <;> simp [hr, hp]

theorem get?_remove (s : SceneFingerprints) (g f : Fingerprint) :
    (s.remove g).get? f = if f = g then none else s.get? f := by
  have h := get?_keep s (fun h => !decide (h = g)) f
  by_cases hf : f = g
  · simpa [remove, hf] using h
  · simpa [remove, hf] using h

/-! ## What the operations make of a fingerprint -/

theorem submit_spec {claimed : Claimed} {users : IdSet} {now : Timestamp} {outcome : SubmitOutcome}
    {record : Record} {after : SceneFingerprints}
    (h : s.submit claimed users now = .ok (outcome, record, after)) :
    (∀ f, f ≠ claimed.fingerprint → after.get? f = s.get? f) ∧
      after.get? claimed.fingerprint = some record ∧
      ((∃ r, s.get? claimed.fingerprint = some r ∧ record = r.credit users now) ∨
        (s.get? claimed.fingerprint = none ∧ ∃ hne, record = Record.create claimed users now hne))
      := by
  unfold submit at h
  split at h
  · cases h
  · split at h
    · rename_i r hr
      cases h
      refine ⟨fun f hf => ?_, ?_, Or.inl ⟨r, hr, rfl⟩⟩
      · rw [get?_credit, if_neg hf]
      · rw [get?_credit, if_pos rfl, hr]
        rfl
    · rename_i hne _ hr
      cases h
      have hnone : s.get? (Record.create claimed users now hne).fingerprint = none := hr
      refine ⟨fun f hf => ?_, ?_, Or.inr ⟨hr, hne, rfl⟩⟩
      · exact (get?_append hnone f).trans (if_neg hf)
      · exact (get?_append hnone claimed.fingerprint).trans (if_pos rfl)

/-- Withdrawing changes the record of its fingerprint as it changes a record. -/
theorem get?_retract (s : SceneFingerprints) (g : Fingerprint) (users : IdSet) (now : Timestamp)
    (f : Fingerprint) :
    (s.retract g users now).2.get? f =
      if f = g then (s.get? f).bind fun r => r.withdraw users now else s.get? f := by
  unfold retract
  split
  · rename_i hr
    by_cases hf : f = g
    · rw [if_pos hf, hf, hr]
      rfl
    · rw [if_neg hf]
  · rename_i r hr
    by_cases hl : r.loss users = 0
    · rw [if_pos hl]
      by_cases hf : f = g
      · rw [if_pos hf, hf, hr]
        exact (Record.withdraw_of_loss hl now).symm
      · rw [if_neg hf]
    · rw [if_neg hl]
      split
      · rename_i hw
        rw [get?_remove]
        by_cases hf : f = g
        · rw [if_pos hf, if_pos hf, hf, hr]
          exact hw.symm
        · rw [if_neg hf, if_neg hf]
      · rename_i left hw
        rw [get?_mapRecords]
        by_cases hf : f = g
        · rw [if_pos hf, hf, hr]
          simpa using hw.symm
        · rw [if_neg hf]
          cases hq : s.get? f with
          | none => rfl
          | some q =>
            have hne : q ≠ r := by
              rintro rfl
              exact hf ((fingerprint_of_get? hq).symm.trans (fingerprint_of_get? hr))
            simp [hne]

end SceneFingerprints
end SceneCatalog
