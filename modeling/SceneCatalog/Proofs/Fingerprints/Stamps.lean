import SceneCatalog.Proofs.Fingerprints.Merging

/-!
When the records of a merged list count as updated. A record that brings somebody puts its own time
of update on the merged one, later or not, so the time that stays is that of the last one to bring
somebody. Main statement: this for every list, and that merging moves no time back if and only if
the last record to bring somebody to a fingerprint was not updated before the first record for it.
-/
namespace SceneCatalog

namespace Record

variable {before rest rs : List Record} {r last : Record} {f : Fingerprint}

/-! ## Records that bring somebody -/

/-- Whether a record has a submitter whom none of the records listed before it has for its
fingerprint. -/
def brings (before : List Record) (r : Record) : Bool :=
  r.submitters.toList.any fun u =>
    !before.any fun q => decide (q.fingerprint = r.fingerprint ∧ u ∈ q.submitters)

/-- The records of `rest` that bring somebody, when the records `before` are listed before them. -/
def bringing (before : List Record) : List Record → List Record
  | [] => []
  | r :: rest => (if brings before r then [r] else []) ++ bringing (before ++ [r]) rest

/-- The last record of a list that brings somebody to a fingerprint. -/
def last? (rs : List Record) (f : Fingerprint) : Option Record :=
  ((bringing [] rs).filter fun r => decide (r.fingerprint = f)).getLast?

theorem brings_iff : brings before r = true ↔
    ∃ u ∈ r.submitters, ¬ ∃ q ∈ before, q.fingerprint = r.fingerprint ∧ u ∈ q.submitters := by
  simp [brings, IdSet.mem_def]

theorem bringing_snoc (before rest : List Record) (r : Record) :
    bringing before (rest ++ [r]) =
      bringing before rest ++ if brings (before ++ rest) r then [r] else [] := by
  induction rest generalizing before with
  | nil => simp [bringing]
  | cons q rest ih =>
    rw [List.cons_append, bringing, ih, bringing, List.append_assoc, List.append_assoc]
    rfl

theorem last?_snoc (rs : List Record) (r : Record) (f : Fingerprint) :
    last? (rs ++ [r]) f = if f = r.fingerprint ∧ brings rs r = true then some r else last? rs f := by
  rw [last?, bringing_snoc, List.nil_append, List.filter_append]
  by_cases hbrings : brings rs r = true
  · by_cases hf : r.fingerprint = f
    · simp [hbrings, hf]
    · simp [hbrings, hf, Ne.symm hf, last?]
  · simp [hbrings, last?]

theorem of_last? (h : last ∈ last? rs f) : last ∈ rs ∧ last.fingerprint = f := by
  induction rs using List.reverseRecOn with
  | nil => cases h
  | append_singleton rs r ih =>
    rw [last?_snoc] at h
    split at h
    · rename_i hr
      cases h
      exact ⟨by simp, hr.1.symm⟩
    · exact ⟨List.mem_append_left _ (ih h).1, (ih h).2⟩

/-- Where the records for each fingerprint are listed in the order of their updates, the first of
them is updated first. -/
theorem updated_le_of_ordered
    (ordered : rs.Pairwise fun r q => r.fingerprint = q.fingerprint → r.updated ≤ q.updated)
    {first : Record} (hfirst : first ∈ first? rs f) (h : r ∈ rs) (hf : r.fingerprint = f) :
    first.updated ≤ r.updated := by
  obtain ⟨hsame, before, behind, rfl, hbefore⟩ := List.find?_eq_some_iff_append.mp hfirst
  have hfirstFor : first.fingerprint = f := of_decide_eq_true hsame
  rw [List.pairwise_append, List.pairwise_cons] at ordered
  rcases List.mem_append.mp h with h | h
  · exact absurd hf (by simpa using hbefore r h)
  · rcases List.mem_cons.mp h with rfl | h
    · exact Timestamp.le_refl _
    · exact ordered.2.1.1 r h (hfirstFor.trans hf.symm)

end Record

namespace SceneFingerprints

variable {rs : List Record} {r : Record} {f : Fingerprint}

/-! ## The time that stays -/

/-- A record brings somebody exactly if the merged record so far gains a submitter. -/
theorem brings_iff_gain {q : Record} (h : (ofRecords rs).get? r.fingerprint = some q) :
    Record.brings rs r = true ↔ 0 < q.gain r.submitters := by
  rw [Record.brings_iff, Record.gain_pos_iff]
  simp only [← backs_ofRecords, Backs, h, Option.some.injEq, exists_eq_left']

theorem brings_of_get?_eq_none (h : (ofRecords rs).get? r.fingerprint = none) :
    Record.brings rs r = true := by
  obtain ⟨u, hu⟩ := IdSet.exists_mem_of_ne_empty r.backed
  rw [Record.brings_iff]
  refine ⟨u, hu, ?_⟩
  rw [← backs_ofRecords, Backs, h]
  simp

/-- The last record to bring somebody to a fingerprint tells when the merged one counts as
updated. -/
theorem updated_ofRecords (rs : List Record) (f : Fingerprint) :
    ((ofRecords rs).get? f).map (·.updated) = (Record.last? rs f).map (·.updated) := by
  induction rs using List.reverseRecOn with
  | nil => rfl
  | append_singleton rs r ih =>
    rw [ofRecords_snoc, get?_merge, Record.last?_snoc]
    by_cases hf : f = r.fingerprint
    · subst hf
      cases hq : (ofRecords rs).get? r.fingerprint with
      | none => simp [brings_of_get?_eq_none hq]
      | some q =>
        rw [hq] at ih
        by_cases hgain : 0 < q.gain r.submitters
        · simp [(brings_iff_gain hq).mpr hgain, Record.credit, hgain.ne']
        · have hnobody : ¬ Record.brings rs r = true := fun h => hgain ((brings_iff_gain hq).mp h)
          rw [if_pos rfl, if_neg fun h => hnobody h.2, ← ih]
          exact congrArg some (if_pos (Nat.eq_zero_of_not_pos hgain))
    · rw [if_neg hf, if_neg fun h => hf h.1]
      exact ih

/-! ## Times that go back -/

/-- Merging moves no time back: no record counts as updated before it was created, or before the
first record for its fingerprint was. -/
def Onward (rs : List Record) : Prop :=
  ∀ r ∈ (ofRecords rs).records, r.created ≤ r.updated ∧
    ∀ first ∈ Record.first? rs r.fingerprint, first.updated ≤ r.updated

instance (rs : List Record) : Decidable (Onward rs) :=
  inferInstanceAs (Decidable (∀ r ∈ (ofRecords rs).records, r.created ≤ r.updated ∧
    ∀ first ∈ Record.first? rs r.fingerprint, first.updated ≤ r.updated))

/-- The times of a merged record are those of the first record for its fingerprint and of the last
to bring somebody. -/
theorem times_of_mem (h : r ∈ (ofRecords rs).records) :
    ∃ first ∈ Record.first? rs r.fingerprint, ∃ last ∈ Record.last? rs r.fingerprint,
      r.created = first.created ∧ r.updated = last.updated := by
  obtain ⟨first, hfirst, -, hcreated⟩ := (joins_ofRecords rs).first r h
  have hupdated := updated_ofRecords rs r.fingerprint
  rw [get?_of_mem h] at hupdated
  obtain ⟨last, hlast, hsame⟩ := Option.map_eq_some_iff.mp hupdated.symm
  exact ⟨first, hfirst, last, hlast, hcreated, hsame.symm⟩

theorem onward_iff (spans : ∀ r ∈ rs, r.created ≤ r.updated) :
    Onward rs ↔ ∀ f, ∀ first ∈ Record.first? rs f, ∀ last ∈ Record.last? rs f,
      first.updated ≤ last.updated := by
  constructor
  · intro onward f first hfirst last hlast
    have hupdated := updated_ofRecords rs f
    rw [hlast] at hupdated
    obtain ⟨r, hr, hsame⟩ := Option.map_eq_some_iff.mp hupdated
    have hsame : r.updated = last.updated := hsame
    rw [← hsame]
    refine (onward r (List.mem_of_find?_eq_some hr)).2 first ?_
    rwa [fingerprint_of_get? hr]
  · intro ordered r hr
    obtain ⟨first, hfirst, last, hlast, hcreated, hupdated⟩ := times_of_mem hr
    have hle : first.updated ≤ last.updated := ordered _ first hfirst last hlast
    rw [hcreated, hupdated]
    refine ⟨Timestamp.le_trans (spans first (List.mem_of_find?_eq_some hfirst)) hle, ?_⟩
    intro first' hfirst'
    obtain rfl : first' = first := Option.some.inj (hfirst'.symm.trans hfirst)
    exact hle

/-- **When merging moves no time back.** Take any list of records that were not updated before they
were created. A merged record was created when the first record for its fingerprint was, and counts
as updated when the last one to bring somebody was. No time goes back exactly if, for every
fingerprint, the latter was not updated before the former; in particular if the records for a
fingerprint are listed in the order of their updates. -/
theorem merged_times (rs : List Record) (spans : ∀ r ∈ rs, r.created ≤ r.updated) :
    (∀ r ∈ (ofRecords rs).records,
        ∃ first ∈ Record.first? rs r.fingerprint, ∃ last ∈ Record.last? rs r.fingerprint,
          r.created = first.created ∧ r.updated = last.updated) ∧
      (Onward rs ↔ ∀ f, ∀ first ∈ Record.first? rs f, ∀ last ∈ Record.last? rs f,
        first.updated ≤ last.updated) ∧
      ((rs.Pairwise fun r q => r.fingerprint = q.fingerprint → r.updated ≤ q.updated) →
        Onward rs) := by
  refine ⟨fun r => times_of_mem, onward_iff spans, fun ordered => ?_⟩
  refine (onward_iff spans).mpr fun f first hfirst last hlast => ?_
  obtain ⟨hmem, hf⟩ := Record.of_last? hlast
  exact Record.updated_le_of_ordered ordered hfirst hmem hf

/-- A record of one user, with the seconds at which it was created and updated. -/
def stamped (user : Uuid) (created updated : Int) : Record :=
  { Record.ofUser ⟨.sample, 10⟩ user ⟨created, 0⟩ with updated := ⟨updated, 0⟩ }

/-- Records that are not listed in the order of their updates. -/
def unordered : List Record :=
  [stamped (.ofNat 1) 100 200, stamped (.ofNat 2) 10 50, stamped (.ofNat 3) 120 300,
    stamped (.ofNat 2) 10 40]

/-- A time in between may be earlier, as long as the last user to come in comes with a later one. -/
theorem merged_times_unordered :
    (∀ r ∈ unordered, r.created ≤ r.updated) ∧ Onward unordered := by
  have spans : ∀ r ∈ unordered, r.created ≤ r.updated := by decide
  have alike : ∀ r ∈ unordered, r.fingerprint = .sample := by decide
  have hfirst : Record.first? unordered .sample = some (stamped (.ofNat 1) 100 200) := rfl
  have hlast : Record.last? unordered .sample = some (stamped (.ofNat 3) 120 300) := rfl
  refine ⟨spans, (merged_times _ spans).2.1.mpr fun g first hfirst' last hlast' => ?_⟩
  obtain ⟨hmem, hg⟩ := Record.of_last? hlast'
  obtain rfl : g = .sample := hg.symm.trans (alike last hmem)
  rw [Option.some.inj (hfirst'.symm.trans hfirst), Option.some.inj (hlast'.symm.trans hlast)]
  decide

/-- A record that is listed later, brings a user and was updated earlier takes the time back: the
merged record counts as updated before it was created, and before the first one was updated. -/
theorem not_onward :
    let rs := [stamped (.ofNat 1) 100 200, stamped (.ofNat 2) 10 50]
    (∀ r ∈ rs, r.created ≤ r.updated) ∧ ¬ Onward rs ∧
      ∃ r, (ofRecords rs).records = [r] ∧ r.updated < r.created ∧
        ∃ first ∈ Record.first? rs r.fingerprint, r.updated < first.updated :=
  ⟨by decide, by decide, _, rfl, by decide, _, rfl, by decide⟩

end SceneFingerprints
end SceneCatalog
