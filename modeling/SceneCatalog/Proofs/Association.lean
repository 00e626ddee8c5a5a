import Mathlib.Data.List.Induction
import Mathlib.Data.List.Nodup

/-!
Association lists: what a look-up finds, and what leaving an entry out or replacing its value does
to a look-up. Lists from which repeats have been taken out.
-/
namespace SceneCatalog

/-! ## Look-ups -/

variable {κ ν : Type} [DecidableEq κ]

theorem mem_of_lookup {l : List (κ × ν)} {k : κ} {v : ν} (h : l.lookup k = some v) :
    (k, v) ∈ l := by
  obtain ⟨l₁, l₂, rfl, -⟩ := List.lookup_eq_some_iff.mp h
  simp

theorem lookup_isSome_iff_mem {l : List (κ × ν)} {k : κ} :
    (l.lookup k).isSome ↔ k ∈ l.map (·.1) := by
  rw [List.lookup_isSome_iff, List.mem_map]
  constructor
  · rintro ⟨e, he, hk⟩
    exact ⟨e, he, (eq_of_beq hk).symm⟩
  · rintro ⟨e, he, rfl⟩
    exact ⟨e, he, beq_self_eq_true _⟩

/-- Where no key is repeated, an entry is what a look-up of its key finds. -/
theorem lookup_of_mem {l : List (κ × ν)} (hk : (l.map (·.1)).Nodup) {k : κ} {v : ν}
    (h : (k, v) ∈ l) : l.lookup k = some v := by
  obtain ⟨front, back, rfl⟩ := List.append_of_mem h
  rw [List.map_append, List.map_cons, List.nodup_append] at hk
  have hnone : front.lookup k = none := by
    rw [← Option.not_isSome_iff_eq_none, lookup_isSome_iff_mem]
    exact fun hm => hk.2.2 k hm k List.mem_cons_self rfl
  rw [List.lookup_append, hnone]
  simp

theorem lookup_cons_of_ne {k j : κ} (h : k ≠ j) (v : ν) (l : List (κ × ν)) :
    ((j, v) :: l).lookup k = l.lookup k := by
  rw [List.lookup_cons, beq_false_of_ne h]

theorem lookup_filter_ne (l : List (κ × ν)) (k j : κ) :
    (l.filter fun e => !decide (e.1 = k)).lookup j = if j = k then none else l.lookup j := by
  induction l with
  | nil => simp
  | cons e l ih =>
    obtain ⟨i, w⟩ := e
    by_cases hi : i = k
    · rw [List.filter_cons_of_neg (by simpa using hi), ih]
      by_cases hj : j = k
      · simp [hj]
      · rw [lookup_cons_of_ne (hi ▸ hj)]
    · rw [List.filter_cons_of_pos (by simpa using hi)]
      by_cases hj : j = i
      · subst hj
        simp [hi]
      · rw [lookup_cons_of_ne hj, lookup_cons_of_ne hj, ih]

theorem lookup_map_update (l : List (κ × ν)) (k j : κ) (v : ν) :
    (l.map fun e => if e.1 = k then (k, v) else e).lookup j =
      if j = k then (l.lookup j).map fun _ => v else l.lookup j := by
  induction l with
  | nil => simp
  | cons e l ih =>
    obtain ⟨i, w⟩ := e
    rw [List.map_cons]
    by_cases hj : j = i
    · subst hj
      by_cases hi : j = k
      · subst hi
        simp
      · simp [hi]
    · rw [lookup_cons_of_ne hj, ← ih]
      by_cases hi : i = k
      · subst hi
        rw [if_pos rfl, lookup_cons_of_ne hj]
      · rw [if_neg hi, lookup_cons_of_ne hj]

/-! ## Repeats -/

section Repeats

variable {α : Type} [BEq α] [LawfulBEq α]

theorem eraseDups_snoc (l : List α) (a : α) :
    (l ++ [a]).eraseDups = if a ∈ l then l.eraseDups else l.eraseDups ++ [a] := by
  rw [List.eraseDups_append]
  by_cases h : a ∈ l
  · simp [List.removeAll, h]
  · simp [List.removeAll, h, List.eraseDups_cons]

theorem nodup_eraseDups (l : List α) : l.eraseDups.Nodup := by
  induction l using List.reverseRecOn with
  | nil => exact List.nodup_nil
  | append_singleton l b ih =>
    rw [eraseDups_snoc]
    by_cases hb : b ∈ l
    · rwa [if_pos hb]
    · rw [if_neg hb]
      simpa [List.nodup_append] using ⟨ih, fun a ha h => hb (h ▸ ha)⟩

end Repeats

end SceneCatalog
