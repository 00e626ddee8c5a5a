import Mathlib.Data.List.Nodup
import SceneCatalog.Catalog

/-!
The order of scenes: by time of creation, and by identifier among scenes of one time. Where no
identifier is repeated this order leaves nothing open, so scenes are in order in exactly one way,
and leaving scenes out may come before or after putting them in order. In a catalog no identifier
is repeated, and but for what is stored it is what putting in its scenes makes of the empty one.
-/
namespace SceneCatalog

namespace Timestamp

theorem lt_iff {a b : Timestamp} :
    a < b ↔ a.seconds < b.seconds ∨ (a.seconds = b.seconds ∧ a.nanos < b.nanos) := Iff.rfl

theorem lt_trans {a b c : Timestamp} (h : a < b) (k : b < c) : a < c := by
  rw [lt_iff] at *
  omega

theorem lt_asymm {a b : Timestamp} (h : a < b) : ¬ b < a := by
  rw [lt_iff] at *
  omega

theorem lt_trichotomy (a b : Timestamp) : a < b ∨ a = b ∨ b < a := by
  obtain ⟨s, n⟩ := a
  obtain ⟨t, m⟩ := b
  simp only [lt_iff, mk.injEq]
  omega

end Timestamp

namespace Scene

/-- One scene stands before another: it was made earlier, or at the same time and its identifier is
the smaller one. -/
def Before (a b : Scene) : Prop := a.created < b.created ∨ (a.created = b.created ∧ a.id < b.id)

variable {a b c : Scene}

theorem Before.asymm (h : a.Before b) : ¬ b.Before a := by
  rintro (k | ⟨e, k⟩)
  · rcases h with h | ⟨e, -⟩
    · exact Timestamp.lt_asymm h k
    · exact Timestamp.lt_asymm k (e ▸ k)
  · rcases h with h | ⟨-, h⟩
    · exact Timestamp.lt_asymm h (e ▸ h)
    · exact Uuid.lt_irrefl _ (Uuid.lt_trans h k)

theorem precedes_iff :
    a.precedes b = true ↔ a.created < b.created ∨ (a.created = b.created ∧ a.id ≤ b.id) := by
  simp [precedes]

theorem precedes_trans (a b c : Scene) (h : a.precedes b = true) (k : b.precedes c = true) :
    a.precedes c = true := by
  rw [precedes_iff] at *
  rcases h with h | ⟨e, h⟩ <;> rcases k with k | ⟨e', k⟩
  · exact Or.inl (Timestamp.lt_trans h k)
  · exact Or.inl (e' ▸ h)
  · exact Or.inl (e ▸ k)
  · exact Or.inr ⟨e.trans e', Nat.le_trans h k⟩

theorem precedes_total (a b : Scene) : (a.precedes b || b.precedes a) = true := by
  rw [Bool.or_eq_true, precedes_iff, precedes_iff]
  rcases Timestamp.lt_trichotomy a.created b.created with h | h | h
  · exact Or.inl (Or.inl h)
  · rcases Nat.le_total a.id.toNat b.id.toNat with hid | hid
    · exact Or.inl (Or.inr ⟨h, hid⟩)
    · exact Or.inr (Or.inr ⟨h.symm, hid⟩)
  · exact Or.inr (Or.inl h)

theorem before_of_precedes (h : a.precedes b = true) (hne : a.id ≠ b.id) : a.Before b := by
  rcases precedes_iff.mp h with h | ⟨e, h⟩
  · exact Or.inl h
  · exact Or.inr ⟨e, Nat.lt_of_le_of_ne h fun hn => hne (Uuid.toNat_inj.mp hn)⟩

variable {scenes : List Scene}

theorem inOrder_perm (scenes : List Scene) : (inOrder scenes).Perm scenes :=
  List.mergeSort_perm _ _

theorem Distinct.inOrder (h : Distinct scenes) : (inOrder scenes).Pairwise Before :=
  List.Pairwise.imp₂ (fun _ _ => before_of_precedes)
    (List.pairwise_mergeSort precedes_trans precedes_total scenes)
    ((inOrder_perm scenes).symm.pairwise h fun hne => hne.symm)

/-- Two lists of the same scenes that are both in order are equal. -/
theorem eq_of_before {scenes' : List Scene} (h : scenes.Pairwise Before)
    (h' : scenes'.Pairwise Before) (same : scenes.Perm scenes') : scenes = scenes' :=
  List.Perm.eq_of_pairwise (fun _ _ _ _ hab hba => absurd hba hab.asymm) h h' same

/-- Leaving scenes out does not disturb the order of the others. -/
theorem Distinct.inOrder_filter (h : Distinct scenes) (p : Scene → Bool) :
    Scene.inOrder (scenes.filter p) = (Scene.inOrder scenes).filter p :=
  eq_of_before (h.filter p).inOrder (List.Pairwise.filter p h.inOrder)
    ((inOrder_perm _).trans ((inOrder_perm scenes).symm.filter p))

end Scene

/-! ## Catalogs that are built of scenes -/

namespace Catalog

theorem stored_foldl_insertScene (scenes : List Scene) (c : Catalog) :
    (scenes.foldl insertScene c).stored = c.stored := by
  induction scenes generalizing c with
  | nil => rfl
  | cons scene scenes ih => exact ih (c.insertScene scene)

@[simp] theorem stored_ofScenes (scenes : List Scene) : (ofScenes scenes).stored = [] :=
  stored_foldl_insertScene scenes ∅

/-- Scenes that are put in one after another stand in that order, if none takes the place of
another. -/
theorem scenes_foldl_insertScene {scenes : List Scene} {c : Catalog}
    (h : Scene.Distinct (c.scenes ++ scenes)) :
    (scenes.foldl insertScene c).scenes = c.scenes ++ scenes := by
  induction scenes generalizing c with
  | nil => exact (List.append_nil _).symm
  | cons scene scenes ih =>
    have hkept : c.scenes.filter (fun s => !decide (s.id = scene.id)) = c.scenes := by
      refine List.filter_eq_self.mpr fun s hs => ?_
      simpa using (List.pairwise_append.mp h).2.2 s hs scene List.mem_cons_self
    have hnext : (c.insertScene scene).scenes = c.scenes ++ [scene] := congrArg (· ++ _) hkept
    have hsplit : c.scenes ++ scene :: scenes = (c.insertScene scene).scenes ++ scenes := by
      rw [hnext, List.append_assoc, List.singleton_append]
    rw [hsplit] at h ⊢
    exact ih h

/-- But for what is stored, a catalog is built of its scenes. -/
theorem ofScenes_scenes (c : Catalog) : ofScenes c.scenes = { c with stored := [] } := by
  have hscenes : (ofScenes c.scenes).scenes = c.scenes := scenes_foldl_insertScene c.distinct
  rw [mk.injEq]
  exact ⟨hscenes, stored_ofScenes c.scenes⟩

end Catalog
end SceneCatalog
