import SceneCatalog.Catalog
import SceneCatalog.Proofs.Consensus.Plan
import SceneCatalog.Proofs.Fingerprints.Sets

/-!
What criteria mean. A criterion says something of the values that a scene has for a relation, and
says it by the members of its list of values alone. Main statement: a criterion compiles exactly if
its modifier is legal for the relation and has the values it needs; the compiled test is what the
modifier says; and put on a relation that a filter leaves open, a modifier and its opposite divide
what the filter matches between them.
-/
namespace SceneCatalog

/-! ## What modifiers say -/

/-- Whether a value is among those of a relation. -/
def Related.Has : Related → Uuid → Prop
  | .one value, v => value = some v
  | .many values, v => v ∈ values

/-- What a modifier says of the values of a relation, compared with those that are listed. -/
def Modifier.Says (values : List Uuid) (related : Related) : Modifier → Prop
  | .equals | .includes => ∃ v, related.Has v ∧ v ∈ values
  | .notEquals | .excludes => ∀ v, related.Has v → v ∉ values
  | .includesAll => ∀ v ∈ values, related.Has v
  | .isNull => ∀ v, ¬ related.Has v
  | .notNull => ∃ v, related.Has v
  | .greaterThan | .lessThan => False

/-- The modifier whose opposite this one is. -/
def Modifier.denied? : Modifier → Option Modifier
  | .excludes => some .includes
  | .notEquals => some .equals
  | .notNull => some .isNull
  | _ => none

theorem Modifier.says_iff_not {negative positive : Modifier} (h : negative.denied? = some positive)
    (values : List Uuid) (related : Related) :
    negative.Says values related ↔ ¬ positive.Says values related := by
  cases negative <;> cases h <;> simp [Modifier.Says]

/-- A predicate of the shape of some values holds of them if the modifier says so. -/
theorem Shape.holds_predicate? {shape : Shape} {modifier : Modifier} {values : List Uuid}
    {predicate : { p : Predicate // p.shape = shape }}
    (h : shape.predicate? modifier (IdSet.ofList values) = some predicate) {related : Related}
    (fits : match related with | .one _ => shape = .toOne | .many _ => shape = .toMany) :
    predicate.val.holds related = true ↔ modifier.Says values related := by
  cases related with
  | one value =>
    obtain rfl : shape = .toOne := fits
    cases modifier <;> cases h <;> cases value <;>
      simp [Predicate.holds, Modifier.Says, Related.Has]
  | many found =>
    obtain rfl : shape = .toMany := fits
    cases modifier <;> cases h <;>
      simp [Predicate.holds, Modifier.Says, Related.Has, IdSet.isSubset, ← IdSet.mem_def]

/-! ## Compiling a criterion -/

theorem IdSet.ofList_eq_empty_iff {values : List Uuid} : IdSet.ofList values = ∅ ↔ values = [] := by
  constructor
  · intro h
    cases values with
    | nil => rfl
    | cons v values => exact absurd h (ne_empty_of_mem (mem_ofList.mpr List.mem_cons_self))
  · rintro rfl
    rfl

namespace Criterion

/-- The criterion has the values that its modifier needs. -/
def HasValues (c : Criterion) : Prop := c.modifier = .isNull ∨ c.modifier = .notNull ∨ c.value ≠ []

variable {relation : Relation} {c : Criterion}

theorem takesValues_iff {modifier : Modifier} :
    modifier.takesValues = true ↔ modifier ≠ .isNull ∧ modifier ≠ .notNull := by
  cases modifier <;> simp [Modifier.takesValues]

theorem not_hasValues_iff :
    ¬ c.HasValues ↔ c.modifier.takesValues = true ∧ IdSet.ofList c.value = ∅ := by
  simp only [HasValues, takesValues_iff, IdSet.ofList_eq_empty_iff, not_or, not_not, and_assoc]

theorem predicate?_eq_none_iff (values : IdSet) :
    relation.shape.predicate? c.modifier values = none ↔
      c.modifier ∉ relation.shape.legalModifiers := by
  rw [← Option.not_isSome_iff_eq_none, ← Shape.permits_iff, Shape.permits, List.contains_iff_mem]

/-- An illegal modifier is reported, whether there are values or not. -/
theorem compile_of_illegal (h : c.modifier ∉ relation.shape.legalModifiers) :
    c.compile relation = .error (.invalidModifier relation c.modifier) := by
  unfold compile
  dsimp only
  rw [(predicate?_eq_none_iff _).mpr h]

theorem compile_of_legal (h : c.modifier ∈ relation.shape.legalModifiers) :
    (¬ c.HasValues ∧ c.compile relation = .error (.missingCriterionValue relation c.modifier)) ∨
      (c.HasValues ∧ ∃ compiled, c.compile relation = .ok compiled ∧
        ∀ scene : Scene, compiled.holds scene = true ↔
          c.modifier.Says c.value (scene.related relation)) := by
  unfold compile
  dsimp only
  cases hp : relation.shape.predicate? c.modifier (IdSet.ofList c.value) with
  | none => exact absurd h ((predicate?_eq_none_iff _).mp hp)
  | some predicate =>
    obtain ⟨predicate, fits⟩ := predicate
    dsimp only
    by_cases hvalues : c.HasValues
    · refine Or.inr ⟨hvalues, _, if_neg fun hmissing => not_hasValues_iff.mpr hmissing hvalues, ?_⟩
      exact fun scene => Shape.holds_predicate? hp (by cases relation <;> rfl)
    · exact Or.inl ⟨hvalues, if_pos (not_hasValues_iff.mp hvalues)⟩

theorem compiles_iff :
    (∃ compiled, c.compile relation = .ok compiled) ↔
      c.modifier ∈ relation.shape.legalModifiers ∧ c.HasValues := by
  by_cases hlegal : c.modifier ∈ relation.shape.legalModifiers
  · rcases compile_of_legal hlegal with ⟨hvalues, herror⟩ | ⟨hvalues, compiled, hok, -⟩
    · rw [herror]
      exact iff_of_false nofun fun h => hvalues h.2
    · exact ⟨fun _ => ⟨hlegal, hvalues⟩, fun _ => ⟨compiled, hok⟩⟩
  · rw [compile_of_illegal hlegal]
    exact iff_of_false nofun fun h => hlegal h.1

/-- A compiled criterion tests what its modifier says. -/
theorem holds_iff_says {compiled : CompiledCriterion} (h : c.compile relation = .ok compiled)
    (scene : Scene) :
    compiled.holds scene = true ↔ c.modifier.Says c.value (scene.related relation) := by
  have hlegal := (compiles_iff.mp ⟨compiled, h⟩).1
  rcases compile_of_legal hlegal with ⟨-, herror⟩ | ⟨-, found, hok, hmeant⟩
  · rw [h] at herror
    cases herror
  · rw [h] at hok
    cases hok
    exact hmeant scene

/-- Only the members of the list of values matter. -/
theorem compile_congr {other : Criterion} (modifier : other.modifier = c.modifier)
    (members : ∀ v, v ∈ other.value ↔ v ∈ c.value) :
    other.compile relation = c.compile relation := by
  have hset : IdSet.ofList other.value = IdSet.ofList c.value :=
    IdSet.ext fun v => by rw [IdSet.mem_ofList, IdSet.mem_ofList, members]
  unfold compile
  rw [modifier, hset]

end Criterion

/-! ## Filters -/

section Traversal

variable {ε α β : Type} {f : α → Except ε (Option β)} {l : List α}

/-- A list is gone through until a member fails. -/
theorem of_filterMapM_error {e : ε} (h : l.filterMapM f = .error e) : ∃ a ∈ l, f a = .error e := by
  induction l with
  | nil => cases h
  | cons a l ih =>
    rw [List.filterMapM_cons] at h
    rcases of_bind_error h with ha | ⟨found, -, h⟩
    · exact ⟨a, List.mem_cons_self, ha⟩
    · have hrest : l.filterMapM f = .error e := by
        cases found with
        | none => exact h
        | some b =>
          rcases of_bind_error h with h | ⟨bs, -, h⟩
          · exact h
          · cases h
      obtain ⟨b, hb, hfb⟩ := ih hrest
      exact ⟨b, List.mem_cons_of_mem _ hb, hfb⟩

/-- Where no member fails, what is found are the results of the members that have one. -/
theorem of_filterMapM_ok {found : List β} (h : l.filterMapM f = .ok found) :
    (∀ a ∈ l, ∃ o, f a = .ok o) ∧ ∀ b, b ∈ found ↔ ∃ a ∈ l, f a = .ok (some b) := by
  induction l generalizing found with
  | nil =>
    cases h
    simp
  | cons a l ih =>
    rw [List.filterMapM_cons] at h
    obtain ⟨o, ha, h⟩ := of_bind_ok h
    simp only [List.forall_mem_cons, List.exists_mem_cons_iff, ha]
    cases o with
    | none =>
      obtain ⟨hall, hmem⟩ := ih h
      exact ⟨⟨⟨none, rfl⟩, hall⟩, by simpa using hmem⟩
    | some c =>
      obtain ⟨others, hothers, h⟩ := of_bind_ok h
      cases h
      obtain ⟨hall, hmem⟩ := ih hothers
      exact ⟨⟨⟨some c, rfl⟩, hall⟩, fun b => by simp [hmem, eq_comm]⟩

end Traversal

theorem CompiledFilter.holds_iff {compiled : CompiledFilter} {scene : Scene} :
    compiled.holds scene = true ↔
      (∀ fragment, compiled.title = some fragment → scene.title.any (titleHolds fragment) = true) ∧
        ∀ criterion ∈ compiled.criteria, criterion.holds scene = true := by
  rw [holds, Bool.and_eq_true, List.all_eq_true]
  refine and_congr_left fun _ => ?_
  cases compiled.title <;> simp

namespace Filter

/-- What a filter asks of titles. -/
def AsksTitle (filter : Filter) (scene : Scene) : Prop :=
  ∀ fragment, filter.fragment? = some fragment → scene.title.any (titleHolds fragment) = true

/-- The filter with a criterion put on a relation. -/
def put (filter : Filter) (c : Criterion) : Relation → Filter
  | .studios => { filter with studios := some c }
  | .performers => { filter with performers := some c }
  | .tags => { filter with tags := some c }

variable {filter : Filter} {relation : Relation} {c : Criterion} {compiled : CompiledFilter}

theorem criterion?_put (filter : Filter) (c : Criterion) (relation other : Relation) :
    (filter.put c relation).criterion? other =
      if other = relation then some c else filter.criterion? other := by
  cases relation <;> cases other <;> rfl

theorem asksTitle_put {scene : Scene} :
    (filter.put c relation).AsksTitle scene ↔ filter.AsksTitle scene := by
  cases relation <;> exact Iff.rfl

theorem relation_mem_all (relation : Relation) : relation ∈ Relation.all := by
  cases relation <;> decide

/-- The criterion on one of the relations, compiled. -/
def part (filter : Filter) (relation : Relation) : Except CatalogError (Option CompiledCriterion) :=
  match filter.criterion? relation with
  | some criterion => some <$> criterion.compile relation
  | none => pure none

theorem part_eq_ok_iff {criterion : CompiledCriterion} :
    filter.part relation = .ok (some criterion) ↔
      ∃ c, filter.criterion? relation = some c ∧ c.compile relation = .ok criterion := by
  unfold part
  cases filter.criterion? relation with
  | none => exact iff_of_false nofun nofun
  | some c =>
    simp only [Option.some.injEq, exists_eq_left']
    cases c.compile relation with
    | error e => exact iff_of_false nofun nofun
    | ok found =>
      change Except.ok (some found) = .ok (some criterion) ↔ _
      simp

theorem of_part_error {e : CatalogError} (h : filter.part relation = .error e) :
    ∃ c, filter.criterion? relation = some c ∧ c.compile relation = .error e := by
  unfold part at h
  split at h
  · rename_i c hc
    exact ⟨c, hc, of_map_error h⟩
  · cases h

/-- A filter compiles if its criteria do. -/
theorem exists_compile
    (h : ∀ relation c, filter.criterion? relation = some c →
      ∃ found, c.compile relation = .ok found) :
    ∃ compiled, filter.compile = .ok compiled := by
  cases hcompile : filter.compile with
  | ok compiled => exact ⟨compiled, rfl⟩
  | error e =>
    rcases of_bind_error hcompile with herror | ⟨criteria, -, herror⟩
    · obtain ⟨relation, -, hpart⟩ := of_filterMapM_error herror
      obtain ⟨c, hc, hfault⟩ := of_part_error hpart
      obtain ⟨found, hfound⟩ := h relation c hc
      rw [hfound] at hfault
      cases hfault
    · cases herror

/-- The criteria of a filter that compiles do, and it asks for the title and for what each of them
says. -/
theorem of_compile (h : filter.compile = .ok compiled) :
    (∀ relation c, filter.criterion? relation = some c → ∃ found, c.compile relation = .ok found) ∧
      ∀ scene, compiled.holds scene = true ↔ filter.AsksTitle scene ∧
        ∀ relation c, filter.criterion? relation = some c →
          c.modifier.Says c.value (scene.related relation) := by
  obtain ⟨criteria, hcriteria, h⟩ := of_bind_ok h
  cases h
  obtain ⟨hall, hmem⟩ := of_filterMapM_ok (f := filter.part) hcriteria
  have hparts : ∀ relation c, filter.criterion? relation = some c →
      ∃ found, c.compile relation = .ok found := by
    intro relation c hc
    obtain ⟨o, ho⟩ := hall relation (relation_mem_all relation)
    unfold part at ho
    rw [hc] at ho
    obtain ⟨found, hfound, -⟩ := of_map_ok ho
    exact ⟨found, hfound⟩
  refine ⟨hparts, fun scene => ?_⟩
  rw [CompiledFilter.holds_iff]
  refine and_congr Iff.rfl ⟨fun hheld relation c hc => ?_, fun hmeant found hfound => ?_⟩
  · obtain ⟨found, hfound⟩ := hparts relation c hc
    rw [← Criterion.holds_iff_says hfound]
    exact hheld found ((hmem found).mpr
      ⟨relation, relation_mem_all relation, part_eq_ok_iff.mpr ⟨c, hc, hfound⟩⟩)
  · obtain ⟨relation, -, hpart⟩ := (hmem found).mp hfound
    obtain ⟨c, hc, hcompiled⟩ := part_eq_ok_iff.mp hpart
    exact (Criterion.holds_iff_says hcompiled scene).mpr (hmeant relation c hc)

/-- A criterion on a relation that a filter leaves open is one more condition. -/
theorem compile_put (h : filter.compile = .ok compiled) (unset : filter.criterion? relation = none)
    {found : CompiledCriterion} (hc : c.compile relation = .ok found) :
    ∃ more, (filter.put c relation).compile = .ok more ∧ ∀ scene, more.holds scene = true ↔
      compiled.holds scene = true ∧ c.modifier.Says c.value (scene.related relation) := by
  obtain ⟨hparts, hholds⟩ := of_compile h
  have hcriteria : ∀ {other d}, (filter.put c relation).criterion? other = some d ↔
      (other = relation ∧ d = c) ∨ filter.criterion? other = some d := by
    intro other d
    rw [criterion?_put]
    by_cases he : other = relation
    · simp [he, unset, eq_comm]
    · simp [he]
  have hput : ∃ more, (filter.put c relation).compile = .ok more := by
    refine exists_compile fun other d hd => ?_
    rcases hcriteria.mp hd with ⟨rfl, rfl⟩ | hd
    · exact ⟨found, hc⟩
    · exact hparts other d hd
  obtain ⟨more, hmore⟩ := hput
  refine ⟨more, hmore, fun scene => ?_⟩
  rw [(of_compile hmore).2, hholds, asksTitle_put, and_assoc]
  refine and_congr_right fun _ => ⟨fun hmeant => ⟨fun other d hd => ?_, ?_⟩, ?_⟩
  · exact hmeant other d (hcriteria.mpr (Or.inr hd))
  · exact hmeant relation c (hcriteria.mpr (Or.inl ⟨rfl, rfl⟩))
  · rintro ⟨hmeant, hhere⟩ other d hd
    rcases hcriteria.mp hd with ⟨rfl, rfl⟩ | hd
    · exact hhere
    · exact hmeant other d hd

end Filter

/-! ## The law of criteria -/

theorem Catalog.mem_matching {catalog : Catalog} {compiled : CompiledFilter} {scene : Scene} :
    scene ∈ catalog.matching compiled ↔ scene ∈ catalog.scenes ∧ compiled.holds scene = true := by
  rw [matching, Scene.inOrder, List.mem_mergeSort, List.mem_filter]

/-- Where a modifier is legal, so is the one that it denies. -/
theorem Shape.legal_of_denied {shape : Shape} {negative positive : Modifier}
    (h : negative.denied? = some positive) (legal : negative ∈ shape.legalModifiers) :
    positive ∈ shape.legalModifiers := by
  cases negative <;> cases h <;> cases shape <;> revert legal <;> decide

/-- Where a criterion compiles, the one that it denies does with the same values. -/
theorem Criterion.compiles_of_denied {relation : Relation} {c : Criterion} {positive : Modifier}
    (h : c.modifier.denied? = some positive) (hc : ∃ found, c.compile relation = .ok found) :
    ∃ found, (⟨c.value, positive⟩ : Criterion).compile relation = .ok found := by
  obtain ⟨hlegal, hvalues⟩ := compiles_iff.mp hc
  refine compiles_iff.mpr ⟨Shape.legal_of_denied h hlegal, ?_⟩
  obtain ⟨value, modifier⟩ := c
  cases modifier <;> cases h <;> simp_all [HasValues]

/-- To include one value is to have it. -/
theorem Modifier.says_includes_singleton {v : Uuid} {related : Related} :
    Modifier.includes.Says [v] related ↔ related.Has v := by
  simp [Modifier.Says]

/-- Including all values is legal only where including one is. -/
theorem Shape.includes_legal {shape : Shape} (h : .includesAll ∈ shape.legalModifiers) :
    .includes ∈ shape.legalModifiers := by
  cases shape <;> revert h <;> decide

/-- What is true of a criterion on a relation. -/
structure CriterionLaw (relation : Relation) (c : Criterion) : Prop where
  compiles : (∃ compiled, c.compile relation = .ok compiled) ↔
    c.modifier ∈ relation.shape.legalModifiers ∧
      (c.modifier = .isNull ∨ c.modifier = .notNull ∨ c.value ≠ [])
  illegal : c.modifier ∉ relation.shape.legalModifiers →
    c.compile relation = .error (.invalidModifier relation c.modifier)
  missing : c.modifier ∈ relation.shape.legalModifiers → c.modifier ≠ .isNull →
    c.modifier ≠ .notNull → c.value = [] →
      c.compile relation = .error (.missingCriterionValue relation c.modifier)
  /-- Order and repeats of the values do not matter. -/
  members : ∀ other : Criterion, other.modifier = c.modifier →
    (∀ v, v ∈ other.value ↔ v ∈ c.value) → other.compile relation = c.compile relation
  meaning : ∀ compiled, c.compile relation = .ok compiled → ∀ scene : Scene,
    compiled.holds scene = true ↔ c.modifier.Says c.value (scene.related relation)
  /-- To include all values is to include each of them. -/
  includesAll : c.modifier = .includesAll → ∀ compiled, c.compile relation = .ok compiled →
    ∀ scene : Scene, compiled.holds scene = true ↔ ∀ v ∈ c.value, ∃ single,
      (⟨[v], .includes⟩ : Criterion).compile relation = .ok single ∧ single.holds scene = true
  /-- A modifier and its opposite divide between them what a filter matches that leaves the
  relation open. -/
  divides : ∀ positive, c.modifier.denied? = some positive →
    (∃ compiled, c.compile relation = .ok compiled) →
    ∀ (filter : Filter) (base : CompiledFilter), filter.compile = .ok base →
      filter.criterion? relation = none → ∃ inside outside,
        (filter.put ⟨c.value, positive⟩ relation).compile = .ok inside ∧
        (filter.put c relation).compile = .ok outside ∧
        ∀ (catalog : Catalog) (scene : Scene), scene ∈ catalog.matching outside ↔
          scene ∈ catalog.matching base ∧ scene ∉ catalog.matching inside

/-- **The law of criteria**, for every relation and every criterion. -/
theorem criterion_law (relation : Relation) (c : Criterion) : CriterionLaw relation c where
  compiles := Criterion.compiles_iff
  illegal := Criterion.compile_of_illegal
  missing hlegal hnull hnotNull hvalue := by
    rcases Criterion.compile_of_legal hlegal with ⟨-, herror⟩ | ⟨hvalues, -⟩
    · exact herror
    · simp [Criterion.HasValues, hnull, hnotNull, hvalue] at hvalues
  members other hmodifier hmembers := Criterion.compile_congr hmodifier hmembers
  meaning compiled h scene := Criterion.holds_iff_says h scene
  includesAll hall compiled h scene := by
    have hlegal := Shape.includes_legal (hall ▸ (Criterion.compiles_iff.mp ⟨compiled, h⟩).1)
    rw [Criterion.holds_iff_says h, hall]
    refine forall₂_congr fun v _ => ?_
    obtain ⟨single, hsingle⟩ :
        ∃ single, (⟨[v], .includes⟩ : Criterion).compile relation = .ok single :=
      Criterion.compiles_iff.mpr ⟨hlegal, Or.inr (Or.inr (List.cons_ne_nil v []))⟩
    simp only [hsingle, Except.ok.injEq, exists_eq_left', Criterion.holds_iff_says hsingle,
      Modifier.says_includes_singleton]
  divides positive hdenied hcompiles filter base hbase unset := by
    obtain ⟨negated, hnegated⟩ := hcompiles
    obtain ⟨found, hfound⟩ := Criterion.compiles_of_denied hdenied ⟨negated, hnegated⟩
    obtain ⟨inside, hinside, hholdsIn⟩ := Filter.compile_put hbase unset hfound
    obtain ⟨outside, houtside, hholdsOut⟩ := Filter.compile_put hbase unset hnegated
    refine ⟨inside, outside, hinside, houtside, fun catalog scene => ?_⟩
    simp only [Catalog.mem_matching, hholdsIn, hholdsOut, Modifier.says_iff_not hdenied]
    tauto

end SceneCatalog
