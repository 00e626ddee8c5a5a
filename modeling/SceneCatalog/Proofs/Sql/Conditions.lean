import Mathlib.Data.List.Perm.Subperm
import SceneCatalog.Proofs.Catalog.Order
import SceneCatalog.Proofs.Locks.Transcript
import SceneCatalog.Sql.Database

/-!
Conditions mean what the criteria mean that they stand for. A criterion is a test on sets and never
comes out unknown; its condition is read in three-valued logic, over rows whose columns may be
missing and with values that are found by the numbers of parameters.
-/
namespace SceneCatalog.Sql

/-! ## Truth -/

namespace Truth

@[simp] theorem passes_ofBool (b : Bool) : (ofBool b).passes = b := by cases b <;> rfl

@[simp] theorem not_ofBool (b : Bool) : (ofBool b).not = ofBool !b := by cases b <;> rfl

@[simp] theorem passes_or (a b : Truth) : (a.or b).passes = (a.passes || b.passes) := by
  cases a <;> cases b <;> rfl

@[simp] theorem passes_and (a b : Truth) : (a.and b).passes = (a.passes && b.passes) := by
  cases a <;> cases b <;> rfl

end Truth

section Comparisons

variable {α : Type} [DecidableEq α]

/-- A value that is there is the same as one of the others, or is not. -/
@[simp] theorem equalsAny_some (a : α) (values : List α) :
    equalsAny (some a) (some values) = .ofBool (decide (a ∈ values)) := by
  induction values with
  | nil => rfl
  | cons v values ih =>
    simp only [equalsAny, List.foldr_cons] at ih ⊢
    rw [ih]
    by_cases hv : a = v <;> by_cases hm : a ∈ values <;>
      simp [equals, compare, Truth.ofBool, Truth.or, hv, hm]

/-- A missing value is not known to be the same as any other. -/
@[simp] theorem passes_equalsAny_none (values : List α) :
    (equalsAny none (some values)).passes = false := by
  induction values with
  | nil => rfl
  | cons v values ih =>
    simp only [equalsAny, List.foldr_cons] at ih ⊢
    rw [Truth.passes_or, ih]
    rfl

end Comparisons

/-! ## Parameters -/

namespace Tables

variable (t : Tables) (like : String → String → Bool) (s : SceneEntry)

/-- A condition means the same wherever its values stand among those that are bound. -/
theorem truth_append (c : Condition) (before rest : List Arg) :
    t.truth like (before ++ c.args ++ rest) s (before.length + 1) c = t.truth like c.args s 1 c := by
  induction c generalizing before rest with
  | titleLike pattern => simp [truth, Condition.args, bound]
  | studioAny values => simp [truth, Condition.args, bound]
  | studioIsNull => rfl
  | studioIsNotNull => rfl
  | joinedAny table values => simp [truth, Condition.args, bound]
  | joinedCount table values count => simp [truth, Condition.args, bound]
  | not c ih => exact congrArg Truth.not (ih before rest)
  | or c d ihc ihd =>
    have hc : t.truth like (before ++ (c.args ++ d.args) ++ rest) s (before.length + 1) c =
        t.truth like (c.args ++ d.args) s 1 c := by
      rw [← List.append_assoc, List.append_assoc, ihc]
      exact (ihc [] d.args).symm
    -- the parameters of the second condition come behind those of the first
    have hd : t.truth like (before ++ (c.args ++ d.args) ++ rest) s
        (before.length + 1 + c.args.length) d =
          t.truth like (c.args ++ d.args) s (1 + c.args.length) d := by
      have hfirst := ihd (before ++ c.args) rest
      have hsecond := ihd c.args []
      rw [List.append_nil, Nat.add_comm] at hsecond
      rw [List.length_append, Nat.add_right_comm, List.append_assoc before] at hfirst
      rw [hfirst, hsecond]
    exact congrArg₂ Truth.or hc hd

/-- Conditions joined by `AND` pass a row if each of them does with its own values. -/
theorem passes_allTruth (conditions : List Condition) (before rest : List Arg) :
    (t.allTruth like (before ++ Condition.allArgs conditions ++ rest) s (before.length + 1)
      conditions).passes = conditions.all fun c => (t.truth like c.args s 1 c).passes := by
  induction conditions generalizing before with
  | nil => rfl
  | cons c conditions ih =>
    have hargs : before ++ Condition.allArgs (c :: conditions) ++ rest =
        before ++ c.args ++ (Condition.allArgs conditions ++ rest) := by
      simp [Condition.allArgs]
    have hrest := ih (before ++ c.args)
    rw [List.length_append, Nat.add_right_comm, List.append_assoc] at hrest
    rw [allTruth, Truth.passes_and, hargs, truth_append, hrest, List.all_cons]

/-! ## Criteria -/

/-- Counting the values that a scene is joined with, each once, tells whether all are there. -/
theorem size_filter_eq_iff (set : IdSet) (values : List Uuid) :
    (IdSet.ofList (values.filter (· ∈ set.toList))).size = set.size ↔
      ∀ v ∈ set.toList, v ∈ values := by
  have nodup : ∀ u : IdSet, u.toList.Nodup := fun u => u.sorted.imp Uuid.ne_of_lt
  have hmem : ∀ {v}, v ∈ (IdSet.ofList (values.filter (· ∈ set.toList))).toList ↔
      v ∈ values ∧ v ∈ set.toList := by
    intro v
    rw [← IdSet.mem_def, IdSet.mem_ofList, List.mem_filter, decide_eq_true_iff]
  constructor
  · intro hsize v hv
    have hsub := List.subperm_of_subset (nodup _) fun v hv => (hmem.mp hv).2
    exact (hmem.mp ((hsub.perm_of_length_le (Nat.le_of_eq hsize.symm)).mem_iff.mpr hv)).1
  · intro hall
    refine ((List.perm_ext_iff_of_nodup (nodup _) (nodup _)).mpr fun v => ?_).length_eq
    exact ⟨fun hv => (hmem.mp hv).2, fun hv => hmem.mpr ⟨hall v hv, hv⟩⟩

theorem truth_joinedAny (table : JoinTable) (set : IdSet) :
    t.truth like (Condition.joinedAny table set.toList).args s 1 (.joinedAny table set.toList) =
      .ofBool ((IdSet.ofList (t.joined table s.id)).toList.any fun v => decide (v ∈ set)) := by
  change Truth.ofBool ((t.joined table s.id).any fun v =>
    (equalsAny (some v) (some set.toList)).passes) = _
  congr 1
  rw [Bool.eq_iff_iff, List.any_eq_true, List.any_eq_true]
  simp only [equalsAny_some, Truth.passes_ofBool, ← IdSet.mem_def, IdSet.mem_ofList]

theorem passes_joinedCount (table : JoinTable) (set : IdSet) :
    (t.truth like (Condition.joinedCount table set.toList set.size).args s 1
      (.joinedCount table set.toList set.size)).passes =
        set.isSubset (IdSet.ofList (t.joined table s.id)) := by
  change (equals (some ((IdSet.ofList ((t.joined table s.id).filter fun v =>
    (equalsAny (some v) (some set.toList)).passes)).size : Int)) (some (set.size : Int))).passes = _
  rw [Bool.eq_iff_iff, IdSet.isSubset, List.all_eq_true]
  simp only [equalsAny_some, Truth.passes_ofBool, equals, compare, decide_eq_true_iff,
    Int.natCast_inj, IdSet.mem_ofList]
  exact size_filter_eq_iff set _

/-- The condition of a criterion passes just the rows whose scenes pass the criterion. -/
theorem passes_ofCriterion (c : CompiledCriterion) :
    (t.truth like (Condition.ofCriterion c).args s 1 (Condition.ofCriterion c)).passes =
      c.holds (t.row s).toScene := by
  have hnone : ∀ table (set : IdSet),
      (t.truth like (Condition.not (.joinedAny table set.toList)).args s 1
        (.not (.joinedAny table set.toList))).passes =
          (IdSet.ofList (t.joined table s.id)).toList.all fun v => !decide (v ∈ set) := by
    intro table set
    rw [List.all_eq_not_any_not, truth, Condition.args, truth_joinedAny, Truth.not_ofBool,
      Truth.passes_ofBool]
    simp only [Bool.not_not]
  match c with
  | ⟨.studios, .isIn set, _⟩ =>
    change (equalsAny s.studio (some set.toList)).passes = s.studio.any fun v => decide (v ∈ set)
    cases s.studio <;> simp [IdSet.mem_def]
  | ⟨.studios, .notIn set, _⟩ =>
    -- a missing studio passes by the first test, and leaves the second one unknown
    change ((Truth.ofBool s.studio.isNone).or (equalsAny s.studio (some set.toList)).not).passes =
      s.studio.all fun v => !decide (v ∈ set)
    cases s.studio <;> simp [IdSet.mem_def]
  | ⟨.studios, .isNull, _⟩ => exact Truth.passes_ofBool _
  | ⟨.studios, .notNull, _⟩ => exact Truth.passes_ofBool _
  | ⟨.performers, .includesAny set, _⟩ =>
    exact (congrArg Truth.passes (truth_joinedAny t like s .performers set)).trans
      (Truth.passes_ofBool _)
  | ⟨.performers, .excludesAll set, _⟩ => exact hnone .performers set
  | ⟨.performers, .includesAll set, _⟩ => exact passes_joinedCount t like s .performers set
  | ⟨.tags, .includesAny set, _⟩ =>
    exact (congrArg Truth.passes (truth_joinedAny t like s .tags set)).trans
      (Truth.passes_ofBool _)
  | ⟨.tags, .excludesAll set, _⟩ => exact hnone .tags set
  | ⟨.tags, .includesAll set, _⟩ => exact passes_joinedCount t like s .tags set

/-- The conditions of a filter pass just the rows whose scenes pass the filter, where patterns match
the titles that hold the fragment. Further values may be bound behind those of the conditions. -/
theorem passes_ofFilter {filter : CompiledFilter} (rest : List Arg)
    (likes : ∀ fragment, filter.title = some fragment → ∀ title, s.title = some title →
      like (Condition.likeFragment fragment) title = titleHolds fragment title) :
    (t.allTruth like (Condition.allArgs (Condition.ofFilter filter) ++ rest) s 1
      (Condition.ofFilter filter)).passes = filter.holds (t.row s).toScene := by
  have hall := passes_allTruth t like s (Condition.ofFilter filter) [] rest
  rw [List.nil_append, List.length_nil, Nat.zero_add] at hall
  rw [hall, Condition.ofFilter, List.all_append, CompiledFilter.holds, List.all_map]
  congr 1
  · cases htitle : filter.title with
    | none => rfl
    | some fragment =>
      change ((compare like (some (Condition.likeFragment fragment)) s.title).passes && true) =
        s.title.any (titleHolds fragment)
      rw [Bool.and_true]
      cases hs : s.title with
      | none => rfl
      | some title =>
        change (Truth.ofBool (like (Condition.likeFragment fragment) title)).passes =
          titleHolds fragment title
        rw [Truth.passes_ofBool, likes fragment htitle title hs]
  · exact congrArg filter.criteria.all (funext fun c => passes_ofCriterion t like s c)

/-- What the database selects is what the filter selects. -/
theorem selected_ofFilter {filter : CompiledFilter} (rest : List Arg)
    (likes : ∀ fragment, filter.title = some fragment → ∀ s ∈ t.scenes, ∀ title,
      s.title = some title →
        like (Condition.likeFragment fragment) title = titleHolds fragment title) :
    t.selected like (Condition.allArgs (Condition.ofFilter filter) ++ rest)
      (Condition.ofFilter filter) = t.scenes.filter fun s => filter.holds (t.row s).toScene :=
  List.filter_congr fun s hs =>
    passes_ofFilter t like s rest fun fragment hf title ht => likes fragment hf s hs title ht

end Tables
end SceneCatalog.Sql
