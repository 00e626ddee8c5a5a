import SceneCatalog.LockTable
import SceneCatalog.Proofs.Association

/-!
What asking for a lock and giving it back do to a lock table. The view taken of a table is, for
each scene, the line of workers that hold or await its lock: asking puts a worker at the end of
the line, giving back takes the first away, and no other line moves.
-/
namespace SceneCatalog

namespace LockTable

/-! ## Lines -/

/-- The workers that hold or await a mutex, the holder in front. -/
def lineOf (t : LockTable) (name : Nat) : List Nat :=
  match t.mutex? name with
  | none => []
  | some m => m.holder.toList ++ m.waiting

/-- The workers that hold or await the lock of a scene, the holder in front. -/
def line (t : LockTable) (scene : Uuid) : List Nat :=
  match t.entries.lookup scene with
  | none => []
  | some name => t.lineOf name

/-- Every scene of the table has one mutex, every mutex belongs to one scene and is held, and the
next name is new. -/
structure Sound (t : LockTable) : Prop where
  scenes : (t.entries.map (·.1)).Nodup
  names : (t.entries.map (·.2)).Nodup
  known : t.mutexes.map (·.1) = t.entries.map (·.2)
  old : ∀ name ∈ t.entries.map (·.2), name < t.fresh
  held : ∀ entry ∈ t.mutexes, entry.2.holder.isSome

theorem sound_empty : Sound ∅ := by
  constructor <;> simp [EmptyCollection.emptyCollection, empty]

variable {t : LockTable} {scene other : Uuid} {name worker : Nat}

/-- The mutex of a scene, taken apart. -/
theorem Sound.mutex (h : Sound t) (e : t.entries.lookup scene = some name) :
    ∃ holder waiting, t.mutex? name = some ⟨some holder, waiting⟩ := by
  have hn : name ∈ t.mutexes.map (·.1) := by
    rw [h.known]
    exact List.mem_map.mpr ⟨_, mem_of_lookup e, rfl⟩
  obtain ⟨⟨holder, waiting⟩, hm⟩ := Option.isSome_iff_exists.mp (lookup_isSome_iff_mem.mpr hn)
  obtain ⟨i, rfl⟩ := Option.isSome_iff_exists.mp (h.held _ (mem_of_lookup hm))
  exact ⟨i, waiting, hm⟩

theorem line_of_lookup (e : t.entries.lookup scene = some name) :
    t.line scene = t.lineOf name := by
  simp [line, e]

theorem lineOf_of_mutex {m : Mutex} (e : t.mutex? name = some m) :
    t.lineOf name = m.holder.toList ++ m.waiting := by
  simp [lineOf, e]

theorem Sound.line_ne_nil (h : Sound t) (e : t.entries.lookup scene = some name) :
    t.line scene ≠ [] := by
  obtain ⟨holder, waiting, hm⟩ := h.mutex e
  simp [line_of_lookup e, lineOf_of_mutex hm]

/-- A scene is in the table as long as somebody holds or awaits its lock. -/
theorem Sound.mem_scenes_iff (h : Sound t) :
    scene ∈ t.entries.map (·.1) ↔ t.line scene ≠ [] := by
  rw [← lookup_isSome_iff_mem]
  cases e : t.entries.lookup scene with
  | none => simp [line, e]
  | some name => simp [h.line_ne_nil e]

/-- The holder is the first of the line. -/
theorem Sound.isHeldBy_iff (h : Sound t) (e : t.entries.lookup scene = some name) :
    t.isHeldBy name worker = true ↔ (t.line scene).head? = some worker := by
  obtain ⟨holder, waiting, hm⟩ := h.mutex e
  simp [isHeldBy, hm, line_of_lookup e, lineOf_of_mutex hm]

/-- Two scenes do not share a mutex. -/
theorem Sound.name_inj (h : Sound t) (e : t.entries.lookup scene = some name)
    (e' : t.entries.lookup other = some name) : scene = other := by
  have key := List.inj_on_of_nodup_map h.names (mem_of_lookup e) (mem_of_lookup e') rfl
  exact congrArg Prod.fst key

/-! ## Replacing the state of a mutex -/

theorem lineOf_update (t : LockTable) (name other : Nat) (m : Mutex) :
    (t.update name m).lineOf other =
      if other = name ∧ (t.mutex? name).isSome then m.holder.toList ++ m.waiting
      else t.lineOf other := by
  unfold lineOf mutex? update
  rw [lookup_map_update]
  by_cases ho : other = name
  · subst ho
    cases t.mutexes.lookup other <;> simp
  · simp [ho]

theorem Sound.update (h : Sound t) (name holder : Nat) (waiting : List Nat) :
    Sound (t.update name ⟨some holder, waiting⟩) := by
  refine ⟨h.scenes, h.names, ?_, h.old, ?_⟩
  · rw [LockTable.update, List.map_map, ← h.known]
    refine List.map_congr_left fun entry _ => ?_
    by_cases he : entry.1 = name
    · simp [he]
    · simp [he]
  · intro entry he
    obtain ⟨old, hold, rfl⟩ := List.mem_map.mp he
    by_cases hn : old.1 = name
    · simp [hn]
    · simpa [hn] using h.held old hold

/-- What a new state of one scene's mutex does to the lines. -/
theorem Sound.line_update (h : Sound t) (e : t.entries.lookup scene = some name) (m : Mutex)
    (other : Uuid) :
    (t.update name m).line other =
      if other = scene then m.holder.toList ++ m.waiting else t.line other := by
  obtain ⟨holder, waiting, hm⟩ := h.mutex e
  by_cases ho : other = scene
  · subst ho
    rw [line_of_lookup (t := t.update name m) e, lineOf_update]
    simp [hm]
  · rw [if_neg ho]
    cases e' : t.entries.lookup other with
    | none => simp [line, LockTable.update, e']
    | some name' =>
      have hne : name' ≠ name := fun hn => ho (h.name_inj (hn ▸ e') e)
      rw [line_of_lookup (t := t.update name m) e', lineOf_update, line_of_lookup e']
      simp [hne]

/-! ## Asking -/

/-- What a worker that asks for the lock of a scene brings about. -/
structure Asked (t t' : LockTable) (scene : Uuid) (name worker : Nat) : Prop where
  sound : Sound t'
  named : t'.entries.lookup scene = some name
  line : t'.line scene = t.line scene ++ [worker]
  others : ∀ other, other ≠ scene → t'.line other = t.line other
  kept : ∀ other n, t.entries.lookup other = some n → t'.entries.lookup other = some n

theorem Sound.request (h : Sound t) (scene : Uuid) (worker : Nat) :
    Asked t (t.request scene worker).1 scene (t.request scene worker).2 worker := by
  cases e : t.entries.lookup scene with
  | none =>
    -- the scene gets a mutex of its own: no entry and no mutex has the fresh name
    have hnew : t.fresh ∉ t.entries.map (·.2) := fun hm => Nat.lt_irrefl _ (h.old _ hm)
    have hfree : t.mutexes.lookup t.fresh = none := by
      rw [← Option.not_isSome_iff_eq_none, lookup_isSome_iff_mem, h.known]
      exact hnew
    have hscene : scene ∉ t.entries.map (·.1) := by
      rw [← lookup_isSome_iff_mem, e]
      simp
    simp only [LockTable.request, e]
    refine ⟨⟨?_, ?_, ?_, ?_, ?_⟩, ?_, ?_, ?_, ?_⟩
    · rw [List.map_append, List.nodup_append_comm]
      simpa using ⟨by simpa using hscene, h.scenes⟩
    · rw [List.map_append, List.nodup_append_comm]
      simpa using ⟨by simpa using hnew, h.names⟩
    · simp [h.known]
    · intro n hn
      rw [List.map_append, List.mem_append] at hn
      rcases hn with hn | hn
      · exact Nat.lt_succ_of_lt (h.old n hn)
      · simp only [List.map_cons, List.map_nil, List.mem_singleton] at hn
        exact hn ▸ Nat.lt_succ_self _
    · intro entry he
      rcases List.mem_append.mp he with he | he
      · exact h.held entry he
      · rw [List.mem_singleton.mp he]
        rfl
    · simp [List.lookup_append, e]
    · simp [LockTable.line, List.lookup_append, e, lineOf, mutex?, hfree]
    · intro other ho
      cases e' : t.entries.lookup other with
      | none =>
        have hl : (t.entries ++ [(scene, t.fresh)]).lookup other = none := by
          rw [List.lookup_append, e', lookup_cons_of_ne ho]
          rfl
        simp [LockTable.line, hl, e']
      | some n =>
        obtain ⟨holder, waiting, hm⟩ := h.mutex e'
        have hm' : t.mutexes.lookup n = some ⟨some holder, waiting⟩ := hm
        simp [LockTable.line, List.lookup_append, e', lineOf, mutex?, hm']
    · intro other n hn
      simp [List.lookup_append, hn]
  | some name =>
    -- a mutex in the table is held, so that whoever asks has to wait
    obtain ⟨holder, waiting, hm⟩ := h.mutex e
    simp only [LockTable.request, e, hm]
    refine ⟨h.update name holder _, e, ?_, ?_, fun _ _ hn => hn⟩
    · rw [h.line_update e, if_pos rfl, line_of_lookup e, lineOf_of_mutex hm]
      simp
    · intro other ho
      rw [h.line_update e, if_neg ho]

/-! ## Giving back -/

/-- What the holder of the lock of a scene brings about by giving it back. -/
structure Released (t t' : LockTable) (scene : Uuid) : Prop where
  sound : Sound t'
  line : t'.line scene = (t.line scene).tail
  others : ∀ other, other ≠ scene → t'.line other = t.line other
  kept : ∀ other n, t.entries.lookup other = some n → t'.line other ≠ [] →
    t'.entries.lookup other = some n

/-- The mutex of a scene with a single user goes, and its entry with it. -/
theorem Sound.drop (h : Sound t) (e : t.entries.lookup scene = some name)
    (hline : t.line scene = [worker]) :
    Released t
      ⟨t.entries.filter fun entry => !decide (entry.1 = scene),
        t.mutexes.filter fun entry => !decide (entry.1 = name), t.fresh⟩ scene := by
  -- entries and mutexes are filtered by different keys, which leave out the same scene
  have hkey : ∀ entry ∈ t.entries, entry.1 = scene ↔ entry.2 = name := by
    intro entry he
    constructor
    · intro hs
      have hl := lookup_of_mem h.scenes he
      rw [hs, e] at hl
      exact (Option.some.inj hl).symm
    · intro hn
      exact congrArg Prod.fst (List.inj_on_of_nodup_map h.names he (mem_of_lookup e) hn)
  have hsync : (t.mutexes.filter fun entry => !decide (entry.1 = name)).map (·.1) =
      (t.entries.filter fun entry => !decide (entry.1 = scene)).map (·.2) := by
    calc (t.mutexes.filter fun entry => !decide (entry.1 = name)).map (·.1)
        = (t.mutexes.map (·.1)).filter fun n => !decide (n = name) := by
          rw [List.filter_map]
          rfl
      _ = (t.entries.filter fun entry => !decide (entry.2 = name)).map (·.2) := by
          rw [h.known, List.filter_map]
          rfl
      _ = (t.entries.filter fun entry => !decide (entry.1 = scene)).map (·.2) := by
          congr 1
          refine List.filter_congr fun entry he => ?_
          simp [hkey entry he]
  refine ⟨⟨?_, ?_, hsync, ?_, ?_⟩, ?_, ?_, ?_⟩
  · exact h.scenes.sublist (List.filter_sublist.map _)
  · exact h.names.sublist (List.filter_sublist.map _)
  · exact fun n hn => h.old n ((List.filter_sublist.map _).subset hn)
  · exact fun entry he => h.held entry (List.mem_of_mem_filter he)
  · rw [hline]
    simp [LockTable.line, lookup_filter_ne]
  · intro other ho
    cases e' : t.entries.lookup other with
    | none => simp [LockTable.line, lookup_filter_ne, ho, e']
    | some n =>
      have hn : n ≠ name := fun hn => ho (h.name_inj (hn ▸ e') e)
      simp [LockTable.line, lookup_filter_ne, ho, e', lineOf, mutex?, hn]
  · intro other n hn hne
    have ho : other ≠ scene := by
      rintro rfl
      simp [LockTable.line, lookup_filter_ne] at hne
    simp [lookup_filter_ne, ho, hn]

theorem Sound.release (h : Sound t) (e : t.entries.lookup scene = some name) :
    Released t (t.release scene name) scene := by
  obtain ⟨holder, waiting, hm⟩ := h.mutex e
  have hline : t.line scene = holder :: waiting := by
    rw [line_of_lookup e, lineOf_of_mutex hm]
    rfl
  cases waiting with
  | nil =>
    -- nobody waits: the entry is reclaimed first, and then the mutex has no user left
    have hrel : t.release scene name =
        ⟨t.entries.filter fun entry => !decide (entry.1 = scene),
          t.mutexes.filter fun entry => !decide (entry.1 = name), t.fresh⟩ := by
      have hgone : (t.entries.filter fun entry => !decide (entry.1 = scene)).any
          (·.2 == name) = false := by
        rw [List.any_eq_false]
        intro entry he hn
        obtain ⟨hmem, hs⟩ := List.mem_filter.mp he
        have := List.inj_on_of_nodup_map h.names hmem (mem_of_lookup e) (by simpa using hn)
        exact absurd (congrArg Prod.fst this) (by simpa using hs)
      have hreclaim : t.reclaim scene =
          { t with entries := t.entries.filter fun entry => !decide (entry.1 = scene) } := by
        simp [reclaim, e, hm, Mutex.users]
      have hm' : t.mutexes.lookup name = some ⟨some holder, []⟩ := hm
      simp only [LockTable.release, hreclaim, unlock, mutex?, hm', hgone]
      simp
    rw [hrel]
    exact h.drop e hline
  | cons next rest =>
    -- somebody waits: the entry has a reference too many to be reclaimed
    have hrel : t.release scene name = t.update name ⟨some next, rest⟩ := by
      have hreclaim : t.reclaim scene = t := by
        have hmany : ¬ 1 + (1 + (rest.length + 1)) ≤ 2 := by omega
        simp [reclaim, e, hm, Mutex.users, hmany]
      simp [LockTable.release, hreclaim, unlock, hm]
    rw [hrel]
    refine ⟨h.update name next rest, ?_, ?_, fun _ _ hn _ => hn⟩
    · rw [h.line_update e, if_pos rfl, hline]
      rfl
    · intro other ho
      rw [h.line_update e, if_neg ho]

end LockTable

end SceneCatalog
