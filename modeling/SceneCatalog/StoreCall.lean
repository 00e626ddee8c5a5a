import SceneCatalog.Ask
import SceneCatalog.Filter
import SceneCatalog.Page
import SceneCatalog.SceneFingerprints

/-!
What the catalog asks of its store. A change of a scene is loaded, saved and committed in a
transaction, which a store may lay out as it likes; a transaction that is dropped before its commit
leaves nothing behind.
-/
namespace SceneCatalog

/-- A call of the store. -/
inductive StoreCall where
  /-- Is the scene known? -/
  | sceneExists (scene : Uuid)
  /-- The stored records of a scene. -/
  | load (scene : Uuid)
  /-- Replaces the stored records of a scene. -/
  | save (scene : Uuid) (records : List Record)
  /-- The scenes that have a record for one of the fingerprints, in the order of scenes. -/
  | scenesWithFingerprints (wanted : List Fingerprint)
  /-- The scenes that have a record with one of the digests, in the order of scenes. -/
  | scenesWithHashes (wanted : List String)
  /-- A page of the scenes that pass a filter, and how many pass it. -/
  | findScenes (filter : CompiledFilter) (page : Page)
  | checkHealth
  /-- The stored records of a scene, read in its transaction. -/
  | txLoad (scene : Uuid)
  /-- Replaces the stored records of a scene in its transaction. -/
  | txSave (scene : Uuid) (records : List Record)
  | txCommit (scene : Uuid)
  | txDrop (scene : Uuid)

namespace StoreCall

/-- The answer to a call. Every call can fail, but for the dropping of a transaction. -/
abbrev Reply : StoreCall → Type
  | .sceneExists _ => Except StoreError Bool
  | .load _ => Except StoreError (List Record)
  | .save _ _ => Except StoreError Unit
  | .scenesWithFingerprints _ => Except StoreError (List Uuid)
  | .scenesWithHashes _ => Except StoreError (List Uuid)
  | .findScenes _ _ => Except StoreError (List Scene × UInt64)
  | .checkHealth => Except StoreError Unit
  | .txLoad _ => Except StoreError (List Record)
  | .txSave _ _ => Except StoreError Unit
  | .txCommit _ => Except StoreError Unit
  | .txDrop _ => Unit

end StoreCall

/-- Kinds of store calls, by what they do. -/
inductive CallKind where
  | exists_
  | load
  | save
  | commit
  | find
  | findScenes
  | health
deriving DecidableEq

def StoreCall.kind? : StoreCall → Option CallKind
  | .sceneExists _ => some .exists_
  | .load _ | .txLoad _ => some .load
  | .save _ _ | .txSave _ _ => some .save
  | .scenesWithFingerprints _ | .scenesWithHashes _ => some .find
  | .findScenes _ _ => some .findScenes
  | .checkHealth => some .health
  | .txCommit _ => some .commit
  | .txDrop _ => none

/-- A call of the catalog in progress, which ends in a result or an error. -/
abbrev Work := ExceptT CatalogError (Running StoreCall StoreCall.Reply)

/-- An answer of the store as a result of the catalog. -/
def ofStore (answer : Except StoreError α) : Except CatalogError α :=
  match answer with
  | .ok a => .ok a
  | .error e => .error (.store e)

end SceneCatalog
