import Mathlib.Data.Finset.Card
import Mathlib.Data.Finset.SDiff
import Mathlib.Data.Finset.Sort
import SceneCatalog.Record

/-!
Sets of identifiers as finite sets: two sets with the same members are one, and the sizes of unions
and differences are those of finite sets. What is counted when users are added to a record, or taken
out of it, follows from this.
-/
namespace SceneCatalog

namespace IdSet

variable {s t : IdSet} {a : Uuid}

theorem nodup (s : IdSet) : s.toList.Nodup := s.sorted.imp fun h => Uuid.ne_of_lt h

/-- The set of its members. -/
def toFinset (s : IdSet) : Finset Uuid := ⟨s.toList, s.nodup⟩

@[simp] theorem mem_toFinset {x : Uuid} : x ∈ s.toFinset ↔ x ∈ s := Iff.rfl

theorem size_eq_card (s : IdSet) : s.size = s.toFinset.card := rfl

/-- Sets with the same members are listed alike. -/
theorem ext (h : ∀ x, x ∈ s ↔ x ∈ t) : s = t := by
  obtain ⟨xs, hs⟩ := s
  obtain ⟨ys, ht⟩ := t
  have hperm : xs.Perm ys :=
    (List.perm_ext_iff_of_nodup (nodup ⟨xs, hs⟩) (nodup ⟨ys, ht⟩)).mpr h
  have heq : xs = ys := hperm.eq_of_pairwise (fun x y _ _ hxy hyx =>
    absurd (Uuid.lt_trans hxy hyx) (Uuid.lt_irrefl x)) hs ht
  subst heq
  rfl

theorem toFinset_union (s t : IdSet) : (s ∪ t).toFinset = s.toFinset ∪ t.toFinset := by
  ext x
  simp

theorem toFinset_sdiff (s t : IdSet) : (s \ t).toFinset = s.toFinset \ t.toFinset := by
  ext x
  simp

/-- A union has what it takes in on top. -/
theorem size_union (s t : IdSet) : (s ∪ t).size = s.size + (t \ s).size := by
  simp only [size_eq_card, toFinset_union, toFinset_sdiff]
  rw [Finset.union_comm, ← Finset.card_sdiff_add_card, Nat.add_comm]

/-- A difference lacks what of the second set is in the first. -/
theorem size_sdiff (s t : IdSet) : (s \ t).size = s.size - (t \ (t \ s)).size := by
  simp only [size_eq_card, toFinset_sdiff]
  rw [sdiff_sdiff_right_self, Finset.inf_eq_inter, Finset.card_sdiff]

theorem size_eq_zero : s.size = 0 ↔ s = ∅ := by
  rw [← isEmpty_iff, size, isEmpty, List.length_eq_zero_iff, List.isEmpty_iff]

/-- Taking in nobody new changes nothing. -/
theorem union_eq_self_of_size (h : (t \ s).size = 0) : s ∪ t = s := by
  refine ext fun x => ?_
  rw [mem_union]
  refine ⟨fun hx => hx.elim id fun hxt => ?_, Or.inl⟩
  by_contra hxs
  have hnew : x ∈ t \ s := mem_sdiff.mpr ⟨hxt, hxs⟩
  rw [size_eq_zero.mp h] at hnew
  exact not_mem_empty x hnew

end IdSet

namespace Record

variable {r : Record} {users : IdSet}

/-- Crediting nobody new changes nothing. -/
theorem credit_of_gain (h : r.gain users = 0) (now : Timestamp) : r.credit users now = r := by
  simp only [credit, h, if_true, IdSet.union_eq_self_of_size h]

theorem exists_new_of_gain (h : 0 < r.gain users) : ∃ u ∈ users, u ∉ r.submitters := by
  obtain ⟨u, hu⟩ := IdSet.exists_mem_of_ne_empty fun he => h.ne' (IdSet.size_eq_zero.mpr he)
  exact ⟨u, IdSet.mem_sdiff.mp hu⟩

theorem gain_pos_iff : 0 < r.gain users ↔ ∃ u ∈ users, u ∉ r.submitters := by
  refine ⟨exists_new_of_gain, fun ⟨u, hu, hnew⟩ => Nat.pos_of_ne_zero fun hzero => ?_⟩
  have hmem : u ∈ users \ r.submitters := IdSet.mem_sdiff.mpr ⟨hu, hnew⟩
  rw [IdSet.size_eq_zero.mp hzero] at hmem
  exact IdSet.not_mem_empty u hmem

end Record
end SceneCatalog
