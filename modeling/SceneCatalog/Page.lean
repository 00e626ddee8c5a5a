import SceneCatalog.Error

/-!
Pages of a list: numbered from 1, of a size between 1 and a maximum.
-/
namespace SceneCatalog

/-- A page that may be asked for. -/
structure Page where
  page : UInt32
  perPage : UInt32
  page_pos : 1 ≤ page
  perPage_pos : 1 ≤ perPage
deriving DecidableEq

/-- A page as a client asks for it. -/
structure PageSpec where
  page : Option UInt32
  perPage : Option UInt32
deriving DecidableEq

namespace Page

/-- The size of a page when none is asked for. -/
def defaultSize : UInt32 := 25

/-- The greatest size when none is configured. -/
def defaultMax : UInt32 := 100

def of (page perPage max : UInt32) : Except CatalogError Page :=
  if h : 1 ≤ page then
    if k : 1 ≤ perPage ∧ perPage ≤ max then .ok ⟨page, perPage, h, k.1⟩
    else .error (.invalidPagination (.sizeOutOfRange max perPage))
  else .error (.invalidPagination (.pageTooSmall page))

/-- The page that a client asks for; what is not said is the first page in the default size. -/
def ofSpec (spec : PageSpec) (max : UInt32) : Except CatalogError Page :=
  of (spec.page.getD 1) (spec.perPage.getD (min defaultSize max)) max

/-- The number of items before the page. -/
def offset (p : Page) : UInt64 := (p.page - 1).toUInt64 * p.perPage.toUInt64

/-- The items of a list that are on the page. -/
def slice (p : Page) (items : List α) : List α :=
  (items.drop p.offset.toNat).take p.perPage.toNat

end Page

/-- A page of a list, with the length of the whole list. -/
structure PageOf (α : Type) where
  count : UInt64
  page : UInt32
  perPage : UInt32
  items : List α

end SceneCatalog
