import Mathlib.Algebra.Order.Group.Unbundled.Int
import SceneCatalog.Proofs.Fingerprints.Digests
import SceneCatalog.Proofs.Fingerprints.Sets
import SceneCatalog.Proofs.Sql.Course

/-!
What a row keeps of a record: the row that was inserted for a record, with its users, is read back
as that record, but for what its times have below a microsecond.
-/
namespace SceneCatalog.Sql

/-! ## Times -/

/-- A time as the database keeps it: in whole microseconds and less than one away. From the year
2000 on, what is below a microsecond is cut off. -/
structure KeptTime (t kept : Timestamp) : Prop where
  whole : kept.nanos % 1000 = 0
  proper : kept.nanos < 1000000000
  near : |kept.toNanos - t.toNanos| < 1000
  cut : databaseEpoch ≤ t.seconds → kept.toNanos = t.toNanos / 1000 * 1000

/-- Division that cuts off towards zero goes down from above zero, and up from below. -/
theorem tdiv_thousand (n : Int) :
    (0 ≤ n ∧ n.tdiv 1000 = n / 1000) ∨ (n < 0 ∧ n.tdiv 1000 = -(-n / 1000)) := by
  rcases Int.lt_or_le n 0 with h | h
  · refine Or.inr ⟨h, ?_⟩
    rw [← Int.tdiv_eq_ediv_of_nonneg (by omega), Int.neg_tdiv, Int.neg_neg]
  · exact Or.inl ⟨h, Int.tdiv_eq_ediv_of_nonneg h⟩

theorem keptTime_inMicroseconds (t : Timestamp) : KeptTime t (inMicroseconds t) := by
  obtain ⟨seconds, nanos⟩ := t
  have hcut := tdiv_thousand ((seconds - databaseEpoch) * 1000000000 + nanos)
  simp only [inMicroseconds]
  generalize ((seconds - databaseEpoch) * 1000000000 + (nanos : Int)).tdiv 1000 = micros at hcut
  rw [Int.fdiv_eq_ediv_of_nonneg micros (by decide), Int.fmod_eq_emod_of_nonneg micros (by decide)]
  have hepoch : databaseEpoch = 946684800 := rfl
  refine ⟨?_, ?_, abs_lt.mpr ?_, fun h => ?_⟩
  · dsimp only
    omega
  · dsimp only
    omega
  · simp only [Timestamp.toNanos]
    omega
  · simp only [Timestamp.toNanos] at h ⊢
    omega

/-! ## Rows -/

/-- A record as it comes back from the database. -/
structure KeptRecord (record kept : Record) : Prop where
  fingerprint : kept.fingerprint = record.fingerprint
  duration : kept.duration = record.duration
  submitters : kept.submitters = record.submitters
  created : KeptTime record.created kept.created
  updated : KeptTime record.updated kept.updated

/-- The record that comes back. -/
def reread (record : Record) : Record :=
  { record with
    created := inMicroseconds record.created
    updated := inMicroseconds record.updated }

theorem keptRecord_reread (record : Record) : KeptRecord record (reread record) :=
  ⟨rfl, rfl, rfl, keptTime_inMicroseconds _, keptTime_inMicroseconds _⟩

/-- **A row is read back** as the record it was inserted for. -/
theorem toRecord_saved (r : Record) : (RecordRow.saved r).toRecord = .ok (reread r) := by
  have hsubmitters : IdSet.ofList (RecordRow.saved r).submitters = r.submitters := by
    refine IdSet.ext fun u => ?_
    rw [IdSet.mem_ofList, RecordRow.saved, List.mem_mergeSort]
    rfl
  have hduration : ¬ (RecordRow.saved r).duration < 0 := by
    exact Int.not_lt.mpr (Int.natCast_nonneg _)
  have hwide : UInt32.ofNat (RecordRow.saved r).duration.toNat = r.duration := by
    exact UInt32.ofNat_toNat
  unfold RecordRow.toRecord
  have hparse : Fingerprint.parse (RecordRow.saved r).algorithm (RecordRow.saved r).hash =
    .ok r.fingerprint := r.fingerprint.parse_name
  rw [hparse]
  simp only [hduration, if_false, hwide, hsubmitters, Record.ofParts, dif_neg r.backed]
  rfl

theorem mapM_toRecord_saved (records : List Record) :
    (records.map .saved).mapM RecordRow.toRecord = .ok (records.map reread) := by
  induction records with
  | nil => rfl
  | cons r records ih =>
    rw [List.map_cons, List.mapM_cons, toRecord_saved, ih]
    rfl

end SceneCatalog.Sql
