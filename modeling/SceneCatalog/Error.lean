import SceneCatalog.Algorithm
import SceneCatalog.Criterion.Basic
import SceneCatalog.Text.Hex

/-!
What can go wrong in the catalog, and the wording of it.
-/
namespace SceneCatalog

open Text

/-- A failure of the storage below the catalog. -/
inductive StoreError where
  | connection (text : String)
  | migration (text : String)
  | query (text : String)
  | serialization (text : String)
deriving DecidableEq

def StoreError.message : StoreError → String
  | .connection text => s!"Database connection error: {text}"
  | .migration text => s!"Migration error: {text}"
  | .query text => s!"Query error: {text}"
  | .serialization text => s!"Serialization error: {text}"

/-- Why a text is no digest. -/
inductive HashFault where
  /-- It is not as long as the digests of the family. -/
  | length (expected actual : Nat)
  /-- No family has digests of that length. -/
  | noSuchLength (actual : Nat)
  /-- The byte at `position`, shown as a character, is no hexadecimal digit. -/
  | character (shown : Char) (position : Nat)
deriving DecidableEq

def HashFault.message : HashFault → String
  | .length expected actual => s!"expected {expected} hex characters, got {actual}"
  | .noSuchLength actual => s!"length {actual} matches no known algorithm"
  | .character shown position => s!"Invalid character {quoteChar shown} at position {position}"

/-- Why a page cannot be asked for. -/
inductive PageFault where
  | pageTooSmall (page : UInt32)
  | sizeOutOfRange (max size : UInt32)
  /-- A reason that a caller gives in its own words. -/
  | stated (text : String)
deriving DecidableEq

def PageFault.message : PageFault → String
  | .pageTooSmall page => s!"page must be at least 1, got {page}"
  | .sizeOutOfRange max size => s!"per_page must be between 1 and {max}, got {size}"
  | .stated text => text

/-- A request that the catalog refuses or cannot carry out. -/
inductive CatalogError where
  | unknownAlgorithm (name : String)
  /-- `family` is `none` where a digest of any family was wanted. -/
  | invalidHash (family : Option Algorithm) (raw : String) (fault : HashFault)
  | invalidModifier (relation : Relation) (modifier : Modifier)
  | missingCriterionValue (relation : Relation) (modifier : Modifier)
  | invalidPagination (fault : PageFault)
  | emptySubmitters
  | sceneNotFound (scene : Uuid)
  | store (error : StoreError)
deriving DecidableEq

namespace CatalogError

def message : CatalogError → String
  | .unknownAlgorithm name => s!"Unknown fingerprint algorithm: '{name}'"
  | .invalidHash family raw fault =>
    let label := match family with
      | some algorithm => algorithm.name
      | none => "ANY"
    s!"Invalid {label} hash '{raw}': {fault.message}"
  | .invalidModifier relation modifier =>
    s!"Modifier {modifier.name} is not valid for {relation.name} ({relation.shape.name} relation)"
  | .missingCriterionValue relation modifier =>
    s!"Modifier {modifier.name} on {relation.name} requires at least one value"
  | .invalidPagination fault => s!"Invalid pagination: {fault.message}"
  | .emptySubmitters => "Explicit submitter list must not be empty"
  | .sceneNotFound scene => s!"Scene not found: {scene}"
  | .store error => s!"Store error: {error.message}"

/-- Whether the request itself is at fault, which is found out before the store is asked. -/
def isValidation : CatalogError → Bool
  | .sceneNotFound _ | .store _ => false
  | _ => true

end SceneCatalog.CatalogError
