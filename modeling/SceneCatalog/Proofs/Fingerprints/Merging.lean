import SceneCatalog.Proofs.Consensus.Store
import SceneCatalog.Proofs.Fingerprints.Difference

/-!
What a stored list stands for, also where it repeats a fingerprint. The first record for a
fingerprint gives the merged one its place, its duration and its time of creation, and all of them
give it their submitters. Main statement: this is so for every list, a list without repeats stands
for itself, and a list may be merged in parts.
-/
namespace SceneCatalog

/-- The first record of a list for a fingerprint. -/
def Record.first? (rs : List Record) (f : Fingerprint) : Option Record :=
  rs.find? fun r => decide (r.fingerprint = f)

theorem Record.first?_snoc (rs : List Record) (r : Record) (f : Fingerprint) :
    first? (rs ++ [r]) f = (first? rs f).or (if r.fingerprint = f then some r else none) := by
  by_cases h : r.fingerprint = f <;> simp [first?, List.find?_append, h]

namespace SceneFingerprints

variable {s : SceneFingerprints} {f : Fingerprint} {r : Record} {u : Uuid}

/-! ## Taking in one record -/

theorem get?_isSome_iff : (s.get? f).isSome = true ↔ f ∈ s.fingerprints := by
  simp [get?, fingerprints]

/-- A record is taken in under its fingerprint, and no other fingerprint is touched. -/
theorem get?_merge (s : SceneFingerprints) (r : Record) (f : Fingerprint) :
    (s.merge r).get? f =
      if f = r.fingerprint then
        some ((s.get? f).elim r fun q => q.credit r.submitters r.updated)
      else s.get? f := by
  unfold merge
  cases hr : s.get? r.fingerprint with
  | some q =>
    simp only [get?_credit]
    by_cases hf : f = r.fingerprint
    · simp [hf, hr]
    · simp [hf]
  | none =>
    simp only [get?_append hr]
    by_cases hf : f = r.fingerprint
    · simp [hf, hr]
    · simp [hf]

theorem fingerprints_merge (s : SceneFingerprints) (r : Record) :
    (s.merge r).fingerprints =
      if r.fingerprint ∈ s.fingerprints then s.fingerprints
      else s.fingerprints ++ [r.fingerprint] := by
  have hknown : (s.get? r.fingerprint).isSome = true ↔ r.fingerprint ∈ s.fingerprints :=
    get?_isSome_iff
  unfold merge
  cases hr : s.get? r.fingerprint with
  | some q =>
    rw [hr] at hknown
    rw [if_pos (hknown.mp rfl)]
    exact fingerprints_credit ..
  | none =>
    rw [hr] at hknown
    rw [if_neg fun hmem => nomatch hknown.mpr hmem]
    exact fingerprints_append hr

/-- A stored record brings its submitters and nobody else. -/
theorem backs_merge (s : SceneFingerprints) (r : Record) :
    (s.merge r).Backs f u ↔ s.Backs f u ∨ (r.fingerprint = f ∧ u ∈ r.submitters) := by
  unfold Backs
  rw [get?_merge]
  by_cases hf : f = r.fingerprint
  · -- the submitters are credited to the record that the fingerprint has, or come with the first
    cases hq : s.get? f <;> simp [hf]
  · simp [hf, Ne.symm hf]

/-! ## Taking in a list -/

theorem ofRecords_snoc (rs : List Record) (r : Record) :
    ofRecords (rs ++ [r]) = (ofRecords rs).merge r :=
  List.foldl_concat ..

/-- Each fingerprint has one record, in the order in which the fingerprints first occur. -/
theorem fingerprints_ofRecords (rs : List Record) :
    (ofRecords rs).fingerprints = (rs.map (·.fingerprint)).eraseDups := by
  induction rs using List.reverseRecOn with
  | nil => rfl
  | append_singleton rs r ih =>
    rw [ofRecords_snoc, fingerprints_merge, ih, List.map_append, List.map_singleton, eraseDups_snoc]
    simp only [List.mem_eraseDups]

/-- The first record for a fingerprint tells the duration and the time of creation. -/
theorem map_get?_ofRecords (rs : List Record) (f : Fingerprint) :
    ((ofRecords rs).get? f).map (fun r => (r.duration, r.created)) =
      (Record.first? rs f).map fun r => (r.duration, r.created) := by
  induction rs using List.reverseRecOn with
  | nil => rfl
  | append_singleton rs r ih =>
    rw [ofRecords_snoc, get?_merge, Record.first?_snoc]
    by_cases hf : f = r.fingerprint
    · subst hf
      -- a record that is there already has the same duration and creation after the merge
      cases hq : (ofRecords rs).get? r.fingerprint with
      | none =>
        rw [hq] at ih
        rw [Option.map_eq_none_iff.mp ih.symm]
        simp
      | some q =>
        rw [hq] at ih
        obtain ⟨first, hfirst, hsame⟩ := Option.map_eq_some_iff.mp ih.symm
        rw [hfirst, if_pos rfl]
        exact congrArg some hsame.symm
    · rw [if_neg hf, if_neg (Ne.symm hf), Option.or_none]
      exact ih

theorem backs_iff_mem :
    s.Backs f u ↔ ∃ r ∈ s.records, r.fingerprint = f ∧ u ∈ r.submitters := by
  constructor
  · rintro ⟨r, hr, hu⟩
    exact ⟨r, List.mem_of_find?_eq_some hr, fingerprint_of_get? hr, hu⟩
  · rintro ⟨r, hr, rfl, hu⟩
    exact ⟨r, get?_of_mem hr, hu⟩

/-- The collection that a list stands for names whom the list names. -/
theorem backs_ofRecords (rs : List Record) :
    (ofRecords rs).Backs f u ↔ ∃ r ∈ rs, r.fingerprint = f ∧ u ∈ r.submitters := by
  induction rs using List.reverseRecOn with
  | nil =>
    constructor
    · rintro ⟨r, hr, -⟩
      cases hr
    · rintro ⟨r, hr, -⟩
      cases hr
  | append_singleton rs r ih =>
    rw [ofRecords_snoc, backs_merge, ih]
    simp only [List.mem_append, List.mem_singleton, or_and_right, exists_or, exists_eq_left]

/-! ## Lists without repeats -/

/-- A stored list without repeats stands for itself. -/
theorem records_ofRecords {rs : List Record}
    (distinct : rs.Pairwise fun r q => r.fingerprint ≠ q.fingerprint) :
    (ofRecords rs).records = rs := by
  induction rs using List.reverseRecOn with
  | nil => rfl
  | append_singleton rs r ih =>
    obtain ⟨hfront, -, hlast⟩ := List.pairwise_append.mp distinct
    have hnew : (ofRecords rs).get? r.fingerprint = none := by
      rw [get?_eq_none_iff, ih hfront]
      exact fun q hq => hlast q hq r (List.mem_singleton.mpr rfl)
    have hmerge : ((ofRecords rs).merge r).records = (ofRecords rs).records ++ [r] := by
      unfold merge
      rw [hnew]
      exact congrArg records (dif_pos hnew)
    rw [ofRecords_snoc, hmerge, ih hfront]

/-- A collection stands for itself. -/
theorem ofRecords_records (s : SceneFingerprints) : ofRecords s.records = s := by
  obtain ⟨rs, distinct⟩ := s
  have hrecords : (ofRecords rs).records = rs := records_ofRecords distinct
  generalize ofRecords rs = t at hrecords
  obtain ⟨rs', distinct'⟩ := t
  subst hrecords
  rfl

/-- What a collection has to be that brings the records of a list together. -/
structure Joins (rs : List Record) (s : SceneFingerprints) : Prop where
  /-- There is one record for each fingerprint, in the order in which they first occur. -/
  order : s.fingerprints = (rs.map (·.fingerprint)).eraseDups
  first : ∀ r ∈ s.records, ∃ first, Record.first? rs r.fingerprint = some first ∧
    r.duration = first.duration ∧ r.created = first.created
  submitters : ∀ r ∈ s.records, ∀ u,
    u ∈ r.submitters ↔ ∃ q ∈ rs, q.fingerprint = r.fingerprint ∧ u ∈ q.submitters

theorem joins_ofRecords (rs : List Record) : Joins rs (ofRecords rs) := by
  refine ⟨fingerprints_ofRecords rs, fun r hr => ?_, fun r hr u => ?_⟩
  · have htold := map_get?_ofRecords rs r.fingerprint
    rw [get?_of_mem hr] at htold
    obtain ⟨first, hfirst, hsame⟩ := Option.map_eq_some_iff.mp htold.symm
    obtain ⟨hduration, hcreated⟩ := Prod.mk.inj hsame
    exact ⟨first, hfirst, hduration.symm, hcreated.symm⟩
  · rw [← backs_ofRecords, Backs, get?_of_mem hr]
    simp

/-- **What a stored list stands for.** The records of every list are brought together by their
fingerprints. Exactly the lists without repeats stand for themselves, so a collection is read back
as it was saved, and merging again changes nothing. A list comes to the same if its front is merged
first. -/
theorem merging_law (xs ys : List Record) :
    Joins xs (ofRecords xs) ∧
      ((ofRecords xs).records = xs ↔ xs.Pairwise fun r q => r.fingerprint ≠ q.fingerprint) ∧
      (∀ (s : SceneFingerprints) (c : Catalog) (scene : Uuid),
        ofRecords ((c.save scene s.records).records scene) = s) ∧
      ofRecords (ofRecords xs).records = ofRecords xs ∧
      ofRecords (xs ++ ys) = ofRecords ((ofRecords xs).records ++ ys) := by
  refine ⟨joins_ofRecords xs, ⟨fun h => ?_, records_ofRecords⟩, fun s c scene => ?_,
    ofRecords_records _, ?_⟩
  · rw [← h]
    exact (ofRecords xs).distinct
  · rw [Catalog.records_save, if_pos rfl, ofRecords_records]
  · -- both are what taking in the rest makes of the merged front
    calc ofRecords (xs ++ ys) = ys.foldl merge (ofRecords xs) := List.foldl_append
      _ = ys.foldl merge (ofRecords (ofRecords xs).records) := by rw [ofRecords_records]
      _ = ofRecords ((ofRecords xs).records ++ ys) := List.foldl_append.symm

end SceneFingerprints
end SceneCatalog
