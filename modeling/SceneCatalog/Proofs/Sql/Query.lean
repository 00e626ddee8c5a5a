import SceneCatalog.Proofs.Sql.Conditions
import SceneCatalog.Sql.Pattern

/-!
Queries of scenes over a database. The filter is sent as conditions in two statements, one that
counts and one that gives a page. Main statement: both say what the filter says, of every row, and
no filter fails to be sent.
-/
namespace SceneCatalog.Sql

/-! ## What is sent -/

/-- The statement that counts the scenes that pass a filter. -/
def countOf (filter : CompiledFilter) : Statement := .countScenes (Condition.ofFilter filter)

/-- The statement that gives a page of the scenes that pass a filter. -/
def pageOf (filter : CompiledFilter) (page : Page) : Statement :=
  .selectScenes (Condition.ofFilter filter) page.perPage.toNat (min page.offset.toNat maxOffset)

/-- Answers statements with rows, and refuses none. -/
def willing {σ : Type} (rows : (s : Statement) → σ → s.Rows × σ) (s : Statement) (state : σ) :
    s.Reply × σ :=
  (.ok (rows s state).1, (rows s state).2)

/-- Over a side that refuses nothing a query has an answer. -/
theorem findScenes_transcript {σ : Type} (rows : (s : Statement) → σ → s.Rows × σ) (state : σ)
    (filter : CompiledFilter) (page : Page) :
    let t := Running.transcript (willing rows) (carryOut (.findScenes filter page) false) state
    (∃ answer, t.result = (.ok answer, false)) ∧
      t.asked.map (·.1) =
        [.beginTx, .readSnapshot, countOf filter, pageOf filter page, .commit] :=
  ⟨⟨_, rfl⟩, rfl⟩

/-! ## What is answered -/

/-- The scenes that the tables hold. -/
def Tables.sceneList (t : Tables) : List Scene := t.scenes.map fun s => (t.row s).toScene

theorem Tables.inOrder_sceneList (t : Tables) (rows : List SceneEntry) :
    (SceneEntry.inOrder rows).map (fun s => (t.row s).toScene) =
      Scene.inOrder (rows.map fun s => (t.row s).toScene) :=
  List.map_mergeSort fun _ _ _ _ => rfl

theorem map_limited {α β : Type} (f : α → β) (limit offset : Int) (rows : List α) :
    (limited limit offset rows).map f = limited limit offset (rows.map f) := by
  rw [limited, limited, List.map_take, List.map_drop]

/-- How a query of scenes stands to its filter, over the tables of a database in whose locale `like`
says which titles match a pattern. -/
structure Queries (like : String → String → Bool) (tables : Tables) (filter : CompiledFilter)
    (page : Page) : Prop where
  /-- Whatever is given back, a query sends these statements and does not fail, as long as none is
  refused. -/
  sent : ∀ {σ : Type} (rows : (s : Statement) → σ → s.Rows × σ) (state : σ),
    let t := Running.transcript (willing rows) (carryOut (.findScenes filter page) false) state
    (∃ answer, t.result = (.ok answer, false)) ∧
      t.asked.map (·.1) =
        [.beginTx, .readSnapshot, countOf filter, pageOf filter page, .commit]
  /-- Both statements have one clause, and what comes behind it has the numbers that follow. -/
  texts :
    let clause := Condition.whereClause (Condition.ofFilter filter)
    let next := (countOf filter).args.length + 1
    (countOf filter).text = "SELECT COUNT(*) FROM scenes s" ++ clause ∧
      ∃ columns, (pageOf filter page).text = columns ++ "FROM scenes s" ++ clause ++
        s!" ORDER BY s.created_at, s.id LIMIT ${next} OFFSET ${next + 1}"
  /-- Both have the same values in the same order. -/
  args : (pageOf filter page).args = (countOf filter).args ++
    [.int page.perPage.toNat, .int (min page.offset.toNat maxOffset)]
  /-- The clause is true of just the rows whose scenes pass the filter. -/
  exact : ∀ s ∈ [countOf filter, pageOf filter page], ∀ row ∈ tables.scenes,
    tables.allTruth like s.args row 1 (Condition.ofFilter filter) = .holds ↔
      filter.holds (tables.row row).toScene = true
  /-- The answer is read off the scenes that pass the filter, in order. -/
  answer : ∀ nextId,
    let found := Scene.inOrder (tables.sceneList.filter filter.holds)
    ((Database.atRest like tables nextId).alone (carryOut (.findScenes filter page) false)).result =
      (.ok (limited page.perPage.toNat (min page.offset.toNat maxOffset) found,
        UInt64.ofNat found.length), false)

variable {like : String → String → Bool} {tables : Tables} {filter : CompiledFilter}

/-- What the database answers, when nobody else sends it anything. -/
theorem findScenes_alone (page : Page) (nextId : Int)
    (likes : ∀ fragment, filter.title = some fragment → ∀ row ∈ tables.scenes, ∀ title,
      row.title = some title →
        like (Condition.likeFragment fragment) title = titleHolds fragment title) :
    let found := Scene.inOrder (tables.sceneList.filter filter.holds)
    ((Database.atRest like tables nextId).alone (carryOut (.findScenes filter page) false)).result =
      (.ok (limited page.perPage.toNat (min page.offset.toNat maxOffset) found,
        UInt64.ofNat found.length), false) := by
  intro found
  -- both statements select the rows whose scenes pass the filter
  have hselected := fun rest => tables.selected_ofFilter like rest likes
  have hfound : found = (SceneEntry.inOrder (tables.scenes.filter fun s =>
      filter.holds (tables.row s).toScene)).map fun s => (tables.row s).toScene := by
    rw [tables.inOrder_sceneList]
    exact congrArg Scene.inOrder (List.filter_map ..)
  have hcount : found.length =
      (tables.selected like (countOf filter).args (Condition.ofFilter filter)).length := by
    have hnone := hselected []
    rw [List.append_nil] at hnone
    rw [hfound, countOf, Statement.args, hnone, List.length_map, SceneEntry.inOrder,
      List.length_mergeSort]
  have hpage : limited page.perPage.toNat (min page.offset.toNat maxOffset) found =
      (limited page.perPage.toNat (min page.offset.toNat maxOffset)
        ((SceneEntry.inOrder (tables.selected like (pageOf filter page).args
          (Condition.ofFilter filter))).map tables.row)).map SceneRow.toScene := by
    rw [map_limited, List.map_map, pageOf, Statement.args, hselected, hfound]
    rfl
  rw [hcount, hpage]
  rfl

/-- **A query of scenes says what its filter says**, for every filter and whatever the tables hold,
where patterns match the titles that hold the fragment. -/
theorem queries_exact (page : Page)
    (likes : ∀ fragment, filter.title = some fragment → ∀ row ∈ tables.scenes, ∀ title,
      row.title = some title →
        like (Condition.likeFragment fragment) title = titleHolds fragment title) :
    Queries like tables filter page := by
  refine ⟨fun rows state => findScenes_transcript rows state filter page, ⟨rfl, _, rfl⟩, rfl, ?_,
    fun nextId => findScenes_alone page nextId likes⟩
  intro s hs row hrow
  obtain ⟨rest, hargs⟩ : ∃ rest, s.args = Condition.allArgs (Condition.ofFilter filter) ++ rest := by
    rcases List.mem_pair.mp hs with rfl | rfl
    · exact ⟨[], (List.append_nil _).symm⟩
    · exact ⟨_, rfl⟩
  have hpasses := tables.passes_ofFilter like row rest fun fragment hf title ht =>
    likes fragment hf row hrow title ht
  rw [hargs, ← hpasses]
  cases tables.allTruth like (Condition.allArgs (Condition.ofFilter filter) ++ rest) row 1
    (Condition.ofFilter filter) <;> decide

/-- Scenes with and without a title and a studio. One title holds a fragment whose characters mean
something in patterns, another one would match if they did. -/
def titledAndUntitled : Tables where
  scenes := [⟨.ofNat 1, some "Now 50% O_FF", none, ⟨0, 0⟩⟩, ⟨.ofNat 2, some "50x off", none, ⟨0, 0⟩⟩,
    ⟨.ofNat 3, none, some (.ofNat 9), ⟨0, 0⟩⟩]
  performers := [(.ofNat 1, .ofNat 5), (.ofNat 1, .ofNat 6), (.ofNat 2, .ofNat 5)]
  tags := []
  records := []

/-- A filter with such a fragment, for a studio other than one and for two performers. -/
def fragmentFilter : Filter :=
  ⟨some " 50% o_f ", some ⟨[.ofNat 9], .notEquals⟩, some ⟨[.ofNat 6, .ofNat 5], .includesAll⟩, none⟩

theorem queries_exact_fragment :
    ∃ compiled, fragmentFilter.compile = .ok compiled ∧
      (∀ fragment, compiled.title = some fragment → ∀ row ∈ titledAndUntitled.scenes, ∀ title,
        row.title = some title →
          matchesIgnoringCase (Condition.likeFragment fragment) title =
            titleHolds fragment title) ∧
      Queries matchesIgnoringCase titledAndUntitled compiled ⟨1, 25, by decide, by decide⟩ := by
  have hfragment : fragmentFilter.fragment? = some "50% o_f" := by decide +kernel
  have hlike : ∀ row ∈ titledAndUntitled.scenes, ∀ title ∈ row.title,
      matchesIgnoringCase (Condition.likeFragment "50% o_f") title = titleHolds "50% o_f" title := by
    decide +kernel
  have likes : ∀ fragment, fragmentFilter.fragment? = some fragment →
      ∀ row ∈ titledAndUntitled.scenes, ∀ title, row.title = some title →
        matchesIgnoringCase (Condition.likeFragment fragment) title =
          titleHolds fragment title := by
    intro fragment hf
    rw [hfragment] at hf
    cases hf
    exact hlike
  exact ⟨_, rfl, likes, queries_exact _ likes⟩

end SceneCatalog.Sql
