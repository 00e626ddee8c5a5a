import SceneCatalog.Consensus
import SceneCatalog.Sql.Database

/-!
Catalogs that share a database. Each of them has a lock table of its own, so that the lock of a
scene keeps apart the changes in one catalog and no others; across catalogs there are only the locks
of rows.
-/
namespace SceneCatalog

/-- Calls that run side by side in several catalogs over one answering state. `asked` lists what was
answered, each with the number of its worker. -/
structure Replicas (Call : Type) (Reply : Call → Type) (σ α : Type) where
  workers : List (Worker Call Reply α)
  /-- The lock table of each catalog. -/
  tables : Nat → LockTable
  state : σ
  asked : List (Nat × Call)

namespace Replicas

variable {Call : Type} {Reply : Call → Type} {σ α : Type}

/-- Calls that have not started. -/
def start (calls : List (Running Call Reply α)) (state : σ) : Replicas Call Reply σ α :=
  ⟨calls.map fun call => ⟨call, none⟩, fun _ => ∅, state, []⟩

/-- The workers with the lock table of one catalog. -/
def inCatalog (r : Replicas Call Reply σ α) (catalog : Nat) : Workers Call Reply σ α :=
  ⟨r.workers, r.tables catalog, r.state, r.asked⟩

/-- What has become of all when something has happened in one catalog. -/
def putCatalog (r : Replicas Call Reply σ α) (catalog : Nat) (w : Workers Call Reply σ α) :
    Replicas Call Reply σ α :=
  ⟨w.workers, fun other => if other = catalog then w.locks else r.tables other, w.state, w.asked⟩

/-- Gives worker `i` a turn, where `home i` is the catalog in which it runs. -/
def turn (home : Nat → Nat) (respond : Nat → (call : Call) → σ → Option (Reply call × σ))
    (r : Replicas Call Reply σ α) (i : Nat) : Replicas Call Reply σ α :=
  r.putCatalog (home i) ((r.inCatalog (home i)).turn respond i)

/-- Gives turns in the order of a schedule. -/
def runSchedule (home : Nat → Nat) (respond : Nat → (call : Call) → σ → Option (Reply call × σ))
    (schedule : List Nat) (r : Replicas Call Reply σ α) : Replicas Call Reply σ α :=
  schedule.foldl (turn home respond) r

/-- The results of the workers, `none` where one is not done. -/
def results (r : Replicas Call Reply σ α) : List (Option α) := (r.inCatalog 0).results

end Replicas

/-- A change as it is carried out on a database. -/
def Change.talk (change : Change) (now : Timestamp) : Sql.Talk (Except CatalogError ChangeReply) :=
  Prod.fst <$> Sql.converse (change.run now)

end SceneCatalog
