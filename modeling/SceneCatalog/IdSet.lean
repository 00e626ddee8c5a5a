import SceneCatalog.Uuid

/-!
Finite sets of identifiers. A set is the strictly increasing list of its members, so two sets
with the same members are equal.
-/
namespace SceneCatalog

/-- A set of identifiers, listed in increasing order. -/
structure IdSet where
  toList : List Uuid
  sorted : toList.Pairwise (· < ·)
deriving DecidableEq

namespace IdSet

/-- Puts `x` into an increasing list, unless it is there. -/
def insertInto (x : Uuid) : List Uuid → List Uuid
  | [] => [x]
  | y :: ys => if x < y then x :: y :: ys else if x = y then y :: ys else y :: insertInto x ys

theorem mem_insertInto {x z : Uuid} {ys : List Uuid} :
    z ∈ insertInto x ys ↔ z = x ∨ z ∈ ys := by
  induction ys with
  | nil => simp [insertInto]
  | cons y ys ih =>
    by_cases h : x < y
    · simp [insertInto, h]
    · by_cases e : x = y
      · subst e
        simp [insertInto, h]
      · simp only [insertInto, h, e, ite_false, List.mem_cons, ih]
        grind

theorem sorted_insertInto {x : Uuid} {ys : List Uuid} (h : ys.Pairwise (· < ·)) :
    (insertInto x ys).Pairwise (· < ·) := by
  induction ys with
  | nil => simp [insertInto]
  | cons y ys ih =>
    obtain ⟨hy, hys⟩ := List.pairwise_cons.mp h
    by_cases hlt : x < y
    · rw [insertInto, if_pos hlt, List.pairwise_cons]
      refine ⟨fun z hz => ?_, h⟩
      rcases List.mem_cons.mp hz with rfl | hz
      · exact hlt
      · exact Uuid.lt_trans hlt (hy z hz)
    · by_cases e : x = y
      · rw [insertInto, if_neg hlt, if_pos e]
        exact h
      · rw [insertInto, if_neg hlt, if_neg e, List.pairwise_cons]
        refine ⟨fun z hz => ?_, ih hys⟩
        rcases mem_insertInto.mp hz with rfl | hz
        · exact Uuid.lt_of_not_lt_of_ne hlt e
        · exact hy z hz

/-- The set without members. -/
def empty : IdSet := ⟨[], List.Pairwise.nil⟩

instance : EmptyCollection IdSet := ⟨empty⟩

def singleton (x : Uuid) : IdSet := ⟨[x], by simp⟩

instance : Membership Uuid IdSet := ⟨fun s x => x ∈ s.toList⟩

instance (x : Uuid) (s : IdSet) : Decidable (x ∈ s) :=
  inferInstanceAs (Decidable (x ∈ s.toList))

/-- The number of members. -/
def size (s : IdSet) : Nat := s.toList.length

def isEmpty (s : IdSet) : Bool := s.toList.isEmpty

def insert (s : IdSet) (x : Uuid) : IdSet := ⟨insertInto x s.toList, sorted_insertInto s.sorted⟩

def union (s t : IdSet) : IdSet := t.toList.foldl insert s

instance : Union IdSet := ⟨union⟩

def filter (s : IdSet) (p : Uuid → Bool) : IdSet := ⟨s.toList.filter p, s.sorted.filter p⟩

/-- The members of `s` that are not in `t`. -/
def diff (s t : IdSet) : IdSet := s.filter fun x => !decide (x ∈ t)

instance : SDiff IdSet := ⟨diff⟩

/-- The set of the listed identifiers; repeats and order do not matter. -/
def ofList (xs : List Uuid) : IdSet := xs.foldl insert ∅

/-- Whether every member of `s` is in `t`. -/
def isSubset (s t : IdSet) : Bool := s.toList.all fun x => decide (x ∈ t)

theorem mem_def {x : Uuid} {s : IdSet} : x ∈ s ↔ x ∈ s.toList := Iff.rfl

@[simp] theorem not_mem_empty (x : Uuid) : ¬ x ∈ (∅ : IdSet) := List.not_mem_nil

@[simp] theorem mem_singleton {x y : Uuid} : x ∈ singleton y ↔ x = y := List.mem_singleton

@[simp] theorem mem_insert {x z : Uuid} {s : IdSet} : z ∈ s.insert x ↔ z = x ∨ z ∈ s :=
  mem_insertInto

theorem mem_foldl_insert {z : Uuid} (xs : List Uuid) (s : IdSet) :
    z ∈ xs.foldl insert s ↔ z ∈ s ∨ z ∈ xs := by
  induction xs generalizing s with
  | nil => simp
  | cons x xs ih =>
    rw [List.foldl_cons, ih, mem_insert, List.mem_cons]
    grind

@[simp] theorem mem_union {z : Uuid} {s t : IdSet} : z ∈ s ∪ t ↔ z ∈ s ∨ z ∈ t :=
  mem_foldl_insert t.toList s

@[simp] theorem mem_ofList {z : Uuid} {xs : List Uuid} : z ∈ ofList xs ↔ z ∈ xs := by
  simp [ofList, mem_foldl_insert]

@[simp] theorem mem_filter {z : Uuid} {s : IdSet} {p : Uuid → Bool} :
    z ∈ s.filter p ↔ z ∈ s ∧ p z = true :=
  List.mem_filter

@[simp] theorem mem_sdiff {z : Uuid} {s t : IdSet} : z ∈ s \ t ↔ z ∈ s ∧ ¬ z ∈ t := by
  change z ∈ s.filter _ ↔ _
  simp

theorem isEmpty_iff {s : IdSet} : s.isEmpty = true ↔ s = ∅ := by
  obtain ⟨xs, h⟩ := s
  change xs.isEmpty = true ↔ _
  rw [List.isEmpty_iff]
  constructor
  · rintro rfl
    rfl
  · intro e
    exact congrArg toList e

/-- A set that has a member is not the empty set. -/
theorem ne_empty_of_mem {x : Uuid} {s : IdSet} (h : x ∈ s) : s ≠ ∅ := by
  rintro rfl
  exact not_mem_empty x h

theorem singleton_ne_empty (x : Uuid) : singleton x ≠ ∅ := ne_empty_of_mem (mem_singleton.mpr rfl)

theorem exists_mem_of_ne_empty {s : IdSet} (h : s ≠ ∅) : ∃ x, x ∈ s := by
  obtain ⟨xs, hs⟩ := s
  cases xs with
  | nil => exact absurd rfl h
  | cons x xs => exact ⟨x, List.mem_cons_self⟩

theorem union_ne_empty {s : IdSet} (h : s ≠ ∅) (t : IdSet) : s ∪ t ≠ ∅ := by
  obtain ⟨x, hx⟩ := exists_mem_of_ne_empty h
  exact ne_empty_of_mem (mem_union.mpr (Or.inl hx))

end SceneCatalog.IdSet
