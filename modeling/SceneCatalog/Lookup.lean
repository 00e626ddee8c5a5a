import SceneCatalog.StoreCall

/-!
Reading from the catalog: the records of a scene, the scenes that have a fingerprint, and the
scenes that pass a filter. None of these takes a lock.
-/
namespace SceneCatalog

/-- A record that was looked for, and the scene it belongs to. -/
structure Match where
  scene : Uuid
  record : Record
deriving DecidableEq

/-- The number of submitters on this scene alone. -/
def Match.submissions (m : Match) : Nat := m.record.submissions

/-- Asks the store. -/
def askStore (call : StoreCall) (h : call.Reply = Except StoreError α) : Work α :=
  .ask (.call call) fun answer => .done (ofStore (h ▸ answer))

/-- The records of a scene, the oldest first. -/
def sceneRecords (scene : Uuid) : Work (List Record) := do
  if ← askStore (.sceneExists scene) rfl then
    return (SceneFingerprints.ofRecords (← askStore (.load scene) rfl)).records
  else throw (.sceneNotFound scene)

/-- The records of the scenes that pass a test, scene by scene. -/
def collectMatches (keep : Record → Bool) : List Uuid → Work (List Match)
  | [] => return []
  | scene :: scenes => do
    let stored ← askStore (.load scene) rfl
    let here := ((SceneFingerprints.ofRecords stored).records.filter keep).map (Match.mk scene)
    return here ++ (← collectMatches keep scenes)

/-- Every record for one of the fingerprints. Nothing is asked if there are none. -/
def findByFingerprints (wanted : List Fingerprint) : Work (List Match) := do
  if wanted.isEmpty then return []
  let scenes ← askStore (.scenesWithFingerprints wanted) rfl
  collectMatches (fun r => wanted.contains r.fingerprint) scenes

/-- Every record with one of the digests, whatever its hash family. -/
def findByHashes (raws : List String) : Work (List Match) := do
  let wanted := sortDistinctTexts (← ExceptT.mk (.done (raws.mapM normalizeAnyHash)))
  if wanted.isEmpty then return []
  let scenes ← askStore (.scenesWithHashes wanted) rfl
  collectMatches (fun r => wanted.contains r.fingerprint.hash) scenes

/-- A page of the scenes that pass a filter. The filter is checked first, then the page. -/
def queryScenes (filter : Filter) (spec : PageSpec) (max : UInt32) : Work (PageOf Scene) := do
  let compiled ← ExceptT.mk (.done filter.compile)
  let page ← ExceptT.mk (.done (Page.ofSpec spec max))
  let (items, count) ← askStore (.findScenes compiled page) rfl
  return ⟨count, page.page, page.perPage, items⟩

end SceneCatalog
