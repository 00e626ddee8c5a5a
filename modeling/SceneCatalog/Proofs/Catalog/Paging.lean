import SceneCatalog.Proofs.Catalog.Lookup
import SceneCatalog.Proofs.Sql.Query

/-!
Pages of the scenes that pass a filter. Main statement: the pages of a size make up the scenes in
order, none lost and none repeated, and a database that is asked for a page gives the same part of
what it finds.
-/
namespace SceneCatalog

/-! ## Parts of a list -/

/-- The part of a list with number `k`, where each has `n` items and the first is number 1. -/
def part {α : Type} (items : List α) (n k : Nat) : List α := (items.drop ((k - 1) * n)).take n

/-- How many parts of `n` items it takes to hold so many. -/
def partCount (n count : Nat) : Nat := (count + n - 1) / n

section Parts

variable {α : Type} (items : List α) {n : Nat}

/-- The first parts together are the first items. -/
theorem flatMap_part (n m : Nat) :
    ((List.range m).flatMap fun k => part items n (k + 1)) = items.take (m * n) := by
  induction m with
  | zero => simp
  | succ m ih =>
    rw [List.range_succ, List.flatMap_append, ih, List.flatMap_singleton, part,
      Nat.add_sub_cancel, Nat.succ_mul, List.take_add]

theorem le_partCount_mul (hn : 0 < n) (count : Nat) : count ≤ partCount n count * n := by
  have h := Nat.lt_div_mul_add (a := count + n - 1) hn
  rw [partCount]
  omega

theorem partCount_le (hn : 0 < n) (count : Nat) : partCount n count ≤ count := by
  have h : count ≤ n * count := Nat.le_mul_of_pos_left _ hn
  rw [partCount, Nat.div_le_iff_le_mul_add_pred hn]
  omega

/-- Behind the last part there is nothing. -/
theorem part_eq_nil (hn : 0 < n) {k : Nat} (h : partCount n items.length < k) :
    part items n k = [] := by
  have hle : items.length ≤ (k - 1) * n :=
    (le_partCount_mul hn _).trans (Nat.mul_le_mul_right n (Nat.le_sub_one_of_lt h))
  rw [part, List.drop_eq_nil_of_le hle, List.take_nil]

/-- From the last part on, the parts together are all items. -/
theorem flatMap_part_of_le (hn : 0 < n) {m : Nat} (h : partCount n items.length ≤ m) :
    ((List.range m).flatMap fun k => part items n (k + 1)) = items := by
  rw [flatMap_part, List.take_of_length_le]
  exact (le_partCount_mul hn _).trans (Nat.mul_le_mul_right n h)

end Parts

/-! ## Pages -/

namespace Page

/-- The number of items before a page is not too great for its type. -/
theorem toNat_offset (p : Page) : p.offset.toNat = (p.page.toNat - 1) * p.perPage.toNat := by
  have hpage : (p.page - 1).toNat = p.page.toNat - 1 := UInt32.toNat_sub_of_le _ _ p.page_pos
  have hlt : (p.page.toNat - 1) * p.perPage.toNat < 2 ^ 64 :=
    calc (p.page.toNat - 1) * p.perPage.toNat
        ≤ 2 ^ 32 * p.perPage.toNat := Nat.mul_le_mul_right _ (by have := p.page.toNat_lt; omega)
      _ < 2 ^ 32 * 2 ^ 32 := Nat.mul_lt_mul_of_pos_left p.perPage.toNat_lt (by decide)
  rw [offset, UInt64.toNat_mul, UInt32.toNat_toUInt64, UInt32.toNat_toUInt64, hpage,
    Nat.mod_eq_of_lt hlt]

theorem slice_eq {α : Type} (p : Page) (items : List α) :
    p.slice items = part items p.perPage.toNat p.page.toNat := by
  rw [slice, toNat_offset, part]

/-- A page that is asked for by number and size. -/
theorem ofSpec_eq {page perPage max : UInt32} (hpage : 1 ≤ page) (hsize : 1 ≤ perPage)
    (hmax : perPage ≤ max) :
    ofSpec ⟨some page, some perPage⟩ max = .ok ⟨page, perPage, hpage, hsize⟩ := by
  simp [ofSpec, of, hpage, hsize, hmax]

/-- An offset that is cut down to what the database can hold is still behind all that it can
find. -/
theorem limited_eq_slice {α : Type} (p : Page) {rows : List α} (h : rows.length < 2 ^ 63) :
    Sql.limited p.perPage.toNat (min p.offset.toNat Sql.maxOffset) rows = p.slice rows := by
  have hmax : Sql.maxOffset = 2 ^ 63 - 1 := rfl
  rw [Sql.limited, slice, Int.toNat_natCast]
  by_cases hle : p.offset.toNat ≤ Sql.maxOffset
  · rw [Int.min_eq_left (by omega), Int.toNat_natCast]
  · rw [Int.min_eq_right (by omega), Int.toNat_natCast, List.drop_eq_nil_of_le (by omega),
      List.drop_eq_nil_of_le (by omega)]

/-- A database that is asked for the page gets these numbers, whatever the filter; it can hold them,
and gives by them what is on the page. -/
structure Sends (page : Page) (limit offset : Int) : Prop where
  sent : ∀ (filter : CompiledFilter) {σ : Type}
    (rows : (s : Sql.Statement) → σ → s.Rows × σ) (state : σ),
    .selectScenes (Sql.Condition.ofFilter filter) limit offset ∈
      (Running.transcript (Sql.willing rows)
        (Sql.carryOut (.findScenes filter page) false) state).asked.map (·.1)
  held : (0 ≤ limit ∧ limit ≤ Sql.maxOffset) ∧ 0 ≤ offset ∧ offset ≤ Sql.maxOffset
  same : ∀ {α : Type} (rows : List α), rows.length < 2 ^ 63 →
    Sql.limited limit offset rows = page.slice rows

theorem sends (page : Page) :
    page.Sends page.perPage.toNat (min page.offset.toNat Sql.maxOffset) := by
  have hmax : Sql.maxOffset = 2 ^ 63 - 1 := rfl
  have hsize : page.perPage.toNat < 2 ^ 32 := page.perPage.toNat_lt
  refine ⟨fun filter _ rows state => ?_, by omega, fun rows h => page.limited_eq_slice h⟩
  rw [(Sql.findScenes_transcript rows state filter page).2]
  simp [Sql.pageOf]

end Page

/-! ## Queries -/

namespace MemoryStore

variable {store : MemoryStore}

theorem tells_queryScenes (willing : ∀ n call, store.refuses n call = none) {filter : Filter}
    {compiled : CompiledFilter} (compiles : filter.compile = .ok compiled) {spec : PageSpec}
    {max : UInt32} {page : Page} (paged : Page.ofSpec spec max = .ok page) :
    store.Tells (queryScenes filter spec max)
      (.ok ⟨(store.catalog.page compiled page).2, page.page, page.perPage,
        (store.catalog.page compiled page).1⟩) := by
  have hfound : store.Tells (askStore (.findScenes compiled page) rfl)
      (.ok (store.catalog.page compiled page)) :=
    tells_askStore rfl rfl fun n => by simp [respond, answer, willing]
  rw [queryScenes, compiles, paged]
  exact (tells_settled store (.ok compiled)).bind
    ((tells_settled store (.ok page)).bind (hfound.bind (tells_pure store _)))

/-- Pages of a size, numbered from 1, show the scenes that pass a filter, where `ordered` are these
scenes in order and `pages` are the pages. -/
structure Paged (store : MemoryStore) (locks : LockTable) (filter : Filter)
    (compiled : CompiledFilter) (max size : UInt32) (ordered : List Scene)
    (pages : Nat → List Scene) : Prop where
  found : ordered.Perm (store.catalog.scenes.filter compiled.holds)
  inOrder : ordered.Pairwise Scene.Before
  shown : ∀ k : UInt32, 1 ≤ k →
    (store.ask locks (queryScenes filter ⟨some k, some size⟩ max)).result =
      .ok ⟨UInt64.ofNat ordered.length, k, size, pages k.toNat⟩
  count : (UInt64.ofNat ordered.length).toNat = ordered.length
  atMost : ∀ k, (pages k).length ≤ size.toNat
  /-- All pages that are not empty can be asked for. -/
  last : partCount size.toNat ordered.length < 2 ^ 32
  joined : ∀ m, partCount size.toNat ordered.length ≤ m →
    ((List.range m).flatMap fun k => pages (k + 1)) = ordered
  beyond : ∀ k, partCount size.toNat ordered.length < k → pages k = []

/-- **Pages partition what a filter finds**, for every content of a catalog, every filter that
compiles and every size up to the maximum; and no page is out of reach of a database. -/
theorem pages_partition (store : MemoryStore) (willing : ∀ n call, store.refuses n call = none)
    (few : store.catalog.scenes.length < 2 ^ 32) (locks : LockTable) {filter : Filter}
    {compiled : CompiledFilter} (compiles : filter.compile = .ok compiled) {max size : UInt32}
    (size_pos : 1 ≤ size) (size_le : size ≤ max) :
    (∃ ordered pages, store.Paged locks filter compiled max size ordered pages) ∧
      ∀ page : Page, page.offset.toNat = (page.page.toNat - 1) * page.perPage.toNat ∧
        ∃ limit offset, page.Sends limit offset := by
  refine ⟨?_, fun page => ⟨page.toNat_offset, _, _, page.sends⟩⟩
  have hpos : 0 < size.toNat := size_pos
  have hperm := Scene.inOrder_perm (store.catalog.scenes.filter compiled.holds)
  have hcount : (store.catalog.matching compiled).length < 2 ^ 32 :=
    (hperm.length_eq.trans_le (List.length_filter_le _ _)).trans_lt few
  refine ⟨store.catalog.matching compiled, part (store.catalog.matching compiled) size.toNat,
    hperm, (store.catalog.distinct.filter _).inOrder, fun k hk => ?_, ?_,
    fun k => List.length_take_le _ _,
    (partCount_le hpos _).trans_lt hcount, fun m hm => flatMap_part_of_le _ hpos hm,
    fun k hk => part_eq_nil _ hpos hk⟩
  · have h := (tells_queryScenes willing compiles (Page.ofSpec_eq hk size_pos size_le)).result locks
    rw [Catalog.page, Page.slice_eq] at h
    exact h
  · exact UInt64.toNat_ofNat_of_lt (hcount.trans (by decide))

/-- A catalog with three scenes, two of them of one time. -/
def threeScenes : MemoryStore :=
  .of (.ofScenes [.bare (.ofNat 3) ⟨5, 0⟩, .bare (.ofNat 2) ⟨5, 0⟩, .bare (.ofNat 1) ⟨9, 0⟩]) false

theorem pages_partition_threeScenes :
    (∀ n call, threeScenes.refuses n call = none) ∧
      threeScenes.catalog.scenes.length < 2 ^ 32 ∧ Filter.empty.compile = .ok ⟨none, []⟩ ∧
      (1 : UInt32) ≤ 2 ∧ (2 : UInt32) ≤ 100 ∧
      (∃ ordered pages, threeScenes.Paged ∅ Filter.empty ⟨none, []⟩ 100 2 ordered pages) ∧
      ∀ page : Page, page.offset.toNat = (page.page.toNat - 1) * page.perPage.toNat ∧
        ∃ limit offset, page.Sends limit offset := by
  have few : threeScenes.catalog.scenes.length < 2 ^ 32 := by decide
  have compiles : Filter.empty.compile = .ok ⟨none, []⟩ := rfl
  exact ⟨fun _ _ => rfl, few, compiles, by decide, by decide,
    pages_partition threeScenes (fun _ _ => rfl) few ∅ compiles (by decide) (by decide)⟩

end MemoryStore
end SceneCatalog
