import Mathlib.Data.List.Basic
import SceneCatalog.Sql.Database

/-!
What writes do to the rows of one scene. Rows have numbers, and a number belongs to one scene for
good; so a write that names numbers of one scene cannot touch the rows of another, and what it does
to the rows of its own scene can be told from these rows alone.
-/
namespace SceneCatalog.Sql

/-- The scene that a number of a row belongs to. -/
abbrev Owner := Int → Uuid

/-- Every row has a number that was given out, and belongs to the scene that its number does. -/
def Owned (owner : Owner) (next : Int) (entries : List RecordEntry) : Prop :=
  ∀ e ∈ entries, e.id < next ∧ owner e.id = e.scene

/-- A write names rows of one scene only. -/
def Write.Of (owner : Owner) (next : Int) (scene : Uuid) : Write → Prop
  | .remove ids => ∀ id ∈ ids, id < next ∧ owner id = scene
  | .insert e => e.id < next ∧ owner e.id = scene ∧ e.scene = scene
  | .join id _ => id < next ∧ owner id = scene

/-- Rows after writes. -/
abbrev applyAll (entries : List RecordEntry) (writes : List Write) : List RecordEntry :=
  writes.foldl Write.apply entries

/-- The rows of a scene among others. -/
abbrev ofScene (scene : Uuid) (entries : List RecordEntry) : List RecordEntry :=
  entries.filter fun e => decide (e.scene = scene)

section Writes

variable {owner owner' : Owner} {next next' : Int} {entries : List RecordEntry} {w : Write}
  {writes : List Write} {scene other : Uuid}

/-- Numbers that are given out later change nothing about those that were. -/
theorem Owned.mono (h : Owned owner next entries) (le : next ≤ next')
    (same : ∀ id < next, owner' id = owner id) : Owned owner' next' entries := fun e he =>
  have ⟨hlt, ho⟩ := h e he
  ⟨Int.lt_of_lt_of_le hlt le, (same _ hlt).trans ho⟩

theorem Write.Of.mono (h : w.Of owner next scene) (le : next ≤ next')
    (same : ∀ id < next, owner' id = owner id) : w.Of owner' next' scene := by
  cases w with
  | remove ids =>
    intro id hid
    exact ⟨Int.lt_of_lt_of_le (h id hid).1 le, (same _ (h id hid).1).trans (h id hid).2⟩
  | insert e => exact ⟨Int.lt_of_lt_of_le h.1 le, (same _ h.1).trans h.2.1, h.2.2⟩
  | join id users => exact ⟨Int.lt_of_lt_of_le h.1 le, (same _ h.1).trans h.2⟩

theorem Owned.apply (h : Owned owner next entries) (hw : w.Of owner next scene) :
    Owned owner next (w.apply entries) := by
  intro e he
  cases w with
  | remove ids => exact h e (List.mem_of_mem_filter he)
  | insert entry =>
    rcases List.mem_append.mp he with he | he
    · exact h e he
    · rw [List.mem_singleton.mp he]
      exact ⟨hw.1, hw.2.1.trans hw.2.2.symm⟩
  | join id users =>
    obtain ⟨e', he', rfl⟩ := List.mem_map.mp he
    simpa using h e' he'

theorem Owned.applyAll (h : Owned owner next entries) (hw : ∀ w ∈ writes, w.Of owner next scene) :
    Owned owner next (applyAll entries writes) := by
  induction writes generalizing entries with
  | nil => exact h
  | cons w writes ih =>
    exact ih (h.apply (hw w List.mem_cons_self)) fun v hv => hw v (List.mem_cons_of_mem w hv)

/-- What a write does to the rows of its own scene can be told from these. -/
theorem ofScene_apply (hw : w.Of owner next scene) :
    ofScene scene (w.apply entries) = w.apply (ofScene scene entries) := by
  cases w with
  | remove ids => exact List.filter_comm _ _ entries
  | insert e => simp [Write.apply, hw.2.2]
  | join id users =>
    rw [ofScene, Write.apply, List.filter_map]
    simp only [Function.comp_def, RecordEntry.scene_join]
    rfl

/-- A write does nothing to the rows of another scene. -/
theorem ofScene_apply_of_ne (h : Owned owner next entries) (hw : w.Of owner next scene)
    (hne : other ≠ scene) : ofScene other (w.apply entries) = ofScene other entries := by
  have hforeign : ∀ e ∈ entries, e.scene = other → owner e.id ≠ scene := by
    intro e he hs ho
    exact hne (hs.symm.trans ((h e he).2.symm.trans ho))
  cases w with
  | remove ids =>
    rw [Write.apply, ofScene, ofScene, List.filter_filter]
    refine List.filter_congr fun e he => ?_
    by_cases hs : e.scene = other
    · have : e.id ∉ ids := fun hid => hforeign e he hs (hw _ hid).2
      simp [hs, this]
    · simp [hs]
  | insert e =>
    have : e.scene ≠ other := fun hs => hne (hs.symm.trans hw.2.2)
    simp [Write.apply, this]
  | join id users =>
    rw [ofScene, Write.apply, List.filter_map]
    simp only [Function.comp_def, RecordEntry.scene_join]
    refine (List.map_congr_left fun e he => ?_).trans (List.map_id _)
    obtain ⟨hmem, hs⟩ := List.mem_filter.mp he
    refine RecordEntry.join_of_ne ?_ users
    rintro rfl
    exact hforeign e hmem (of_decide_eq_true hs) hw.2

theorem ofScene_applyAll (hw : ∀ w ∈ writes, w.Of owner next scene) :
    ofScene scene (applyAll entries writes) = applyAll (ofScene scene entries) writes := by
  induction writes generalizing entries with
  | nil => rfl
  | cons w writes ih =>
    refine (ih fun v hv => hw v (List.mem_cons_of_mem w hv)).trans ?_
    rw [ofScene_apply (hw w List.mem_cons_self)]
    rfl

theorem ofScene_applyAll_of_ne (h : Owned owner next entries)
    (hw : ∀ w ∈ writes, w.Of owner next scene) (hne : other ≠ scene) :
    ofScene other (applyAll entries writes) = ofScene other entries := by
  induction writes generalizing entries with
  | nil => rfl
  | cons w writes ih =>
    have hhere := hw w List.mem_cons_self
    exact (ih (h.apply hhere) fun v hv => hw v (List.mem_cons_of_mem w hv)).trans
      (ofScene_apply_of_ne h hhere hne)

end Writes
end SceneCatalog.Sql
