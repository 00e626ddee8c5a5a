import SceneCatalog.Catalog
import SceneCatalog.StoreCall

/-!
A store that keeps its catalog in memory. Its transactions either pass every save on at once, or
stage saves until the commit. It can be told to refuse calls; a refused call has no effect.
-/
namespace SceneCatalog

structure MemoryStore where
  catalog : Catalog
  /-- Whether saves of a transaction wait for its commit. -/
  staging : Bool
  /-- The saves that wait, with the worker whose transaction they belong to. -/
  staged : List (Nat × Uuid × List Record)
  /-- The number of calls so far. -/
  served : Nat
  /-- The calls that are refused, by their number and what they ask for. -/
  refuses : Nat → StoreCall → Option StoreError

namespace MemoryStore

def of (catalog : Catalog) (staging : Bool) : MemoryStore :=
  ⟨catalog, staging, [], 0, fun _ _ => none⟩

/-- The store with the saves of a worker forgotten. -/
def unstage (s : MemoryStore) (worker : Nat) : MemoryStore :=
  { s with staged := s.staged.filter (·.1 ≠ worker) }

/-- Publishes the saves of a worker. -/
def publish (s : MemoryStore) (worker : Nat) : MemoryStore :=
  let mine := s.staged.filter (·.1 = worker)
  { s.unstage worker with
    catalog := mine.foldl (fun catalog (_, scene, records) => catalog.save scene records) s.catalog }

/-- The answer of a call that changes nothing. -/
def answer (s : MemoryStore) (refused : Option StoreError) (a : α) :
    Except StoreError α × MemoryStore :=
  match refused with
  | some e => (.error e, s)
  | none => (.ok a, s)

/-- The answer of a call that leads to the state `after`. -/
def perform (s : MemoryStore) (refused : Option StoreError) (after : MemoryStore) :
    Except StoreError Unit × MemoryStore :=
  match refused with
  | some e => (.error e, s)
  | none => (.ok (), after)

/-- Answers a call of a worker. The commit of a transaction that passed its saves on does nothing
and cannot be refused. -/
def respond (worker : Nat) (call : StoreCall) (store : MemoryStore) : call.Reply × MemoryStore :=
  let refused := store.refuses store.served call
  let s := { store with served := store.served + 1 }
  match call with
  | .sceneExists scene => s.answer refused (s.catalog.scene? scene).isSome
  | .load scene => s.answer refused (s.catalog.records scene)
  | .save scene records => s.perform refused { s with catalog := s.catalog.save scene records }
  | .scenesWithFingerprints wanted =>
    s.answer refused (s.catalog.scenesWith fun r => wanted.contains r.fingerprint)
  | .scenesWithHashes wanted =>
    s.answer refused (s.catalog.scenesWith fun r => wanted.contains r.fingerprint.hash)
  | .findScenes filter page => s.answer refused (s.catalog.page filter page)
  | .checkHealth => s.answer refused ()
  | .txLoad scene => s.answer refused (s.catalog.records scene)
  | .txSave scene records =>
    s.perform refused <|
      if s.staging then { s with staged := s.staged ++ [(worker, scene, records)] }
      else { s with catalog := s.catalog.save scene records }
  | .txCommit _ =>
    if s.staging then s.perform refused (s.publish worker) else (.ok (), s)
  | .txDrop _ => ((), s.unstage worker)

end MemoryStore

end SceneCatalog
