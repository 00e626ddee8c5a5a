import SceneCatalog.Config

/-!
The origins that browsers may call from, and what a response says about them.
-/
namespace SceneCatalog.Api

inductive Origins where
  | any
  | listed (origins : List String)
deriving DecidableEq

namespace Origins

/-- Whether a text may stand in a header: no control characters but the tab. -/
def isHeaderText (s : String) : Bool :=
  s.toList.all fun c => c == '\t' || (' ' ≤ c && c ≠ '\x7f')

/-- The origins that a configuration lists. Entries that cannot stand in a header are left out. -/
def ofConfig : Option (List String) → Origins
  | none | some [] => .any
  | some origins => .listed (origins.filter isHeaderText)

/-- The header about origins in a response to a call from `origin`. -/
def allow (origins : Origins) (origin : Option String) : Option String :=
  match origins with
  | .any => some "*"
  | .listed origins => origin.filter origins.contains

end Origins

end SceneCatalog.Api
