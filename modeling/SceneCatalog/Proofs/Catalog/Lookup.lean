import SceneCatalog.Proofs.Catalog.Order
import SceneCatalog.Proofs.Consensus.Reading
import SceneCatalog.Proofs.Consensus.Submitters
import SceneCatalog.Proofs.Fingerprints.Parsing

/-!
What look-ups find. A look-up first has the store search its stored lists for scenes, then loads the
records of each scene that was found and searches these. Main statement: the two searches together
find what going through all known scenes in order finds, record by record as each scene is shown.
-/
namespace SceneCatalog

/-! ## Digests -/

/-- Texts are normalized one by one, and the first that is no digest is reported. -/
theorem mapM_normalizeAnyHash (raws : List String) :
    ((∀ raw ∈ raws, IsDigest raw) ∧ raws.mapM normalizeAnyHash = .ok (raws.map keptHash)) ∨
      ∃ raw ∈ raws, ¬ IsDigest raw ∧
        ∃ fault, raws.mapM normalizeAnyHash = .error (.invalidHash none raw fault) := by
  induction raws with
  | nil => exact Or.inl ⟨nofun, rfl⟩
  | cons raw raws ih =>
    rw [List.mapM_cons]
    by_cases hraw : IsDigest raw
    · rw [normalizeAnyHash_of_isDigest hraw]
      rcases ih with ⟨hall, hmap⟩ | ⟨bad, hmem, hbad, fault, hmap⟩
      · rw [hmap]
        exact Or.inl ⟨List.forall_mem_cons.mpr ⟨hraw, hall⟩, rfl⟩
      · rw [hmap]
        exact Or.inr ⟨bad, List.mem_cons_of_mem _ hmem, hbad, fault, rfl⟩
    · obtain ⟨fault, hfault⟩ := normalizeAnyHash_of_not_isDigest hraw
      rw [hfault]
      exact Or.inr ⟨raw, List.mem_cons_self, hraw, fault, rfl⟩

theorem mem_sortDistinctTexts {texts : List String} {t : String} :
    t ∈ sortDistinctTexts texts ↔ t ∈ texts := by
  rw [sortDistinctTexts, List.mem_eraseDups, List.mem_mergeSort]

/-! ## Going through the scenes -/

namespace Catalog

/-- The records with which a scene is shown. -/
def shown (c : Catalog) (scene : Uuid) : List Record :=
  (SceneFingerprints.ofRecords (c.records scene)).records

/-- A scene is shown with a record for just the fingerprints of its stored list. -/
theorem exists_shown_iff {c : Catalog} {scene : Uuid} {f : Fingerprint} :
    (∃ r ∈ c.shown scene, r.fingerprint = f) ↔ ∃ r ∈ c.records scene, r.fingerprint = f := by
  constructor
  · rintro ⟨r, hr, hf⟩
    obtain ⟨u, hu⟩ := IdSet.exists_mem_of_ne_empty r.backed
    obtain ⟨q, hq, hqf, -⟩ := backs_iff_ofRecords.mpr
      (SceneFingerprints.backs_iff_mem.mpr ⟨r, hr, hf, hu⟩)
    exact ⟨q, hq, hqf⟩
  · rintro ⟨r, hr, hf⟩
    obtain ⟨u, hu⟩ := IdSet.exists_mem_of_ne_empty r.backed
    obtain ⟨q, hq, hqf, -⟩ := SceneFingerprints.backs_iff_mem.mp
      (backs_iff_ofRecords.mp ⟨r, hr, hf, hu⟩)
    exact ⟨q, hq, hqf⟩

/-- Who stands behind a record that is shown is recorded for its fingerprint in this scene. -/
theorem mem_submitters_shown_iff {c : Catalog} {scene : Uuid} {r : Record}
    (hr : r ∈ c.shown scene) (u : Uuid) :
    u ∈ r.submitters ↔ c.Backs scene r.fingerprint u := by
  have hget : (SceneFingerprints.ofRecords (c.records scene)).get? r.fingerprint = some r :=
    SceneFingerprints.get?_of_mem hr
  rw [backs_iff_ofRecords, SceneFingerprints.Backs]
  simp [hget]

end Catalog

/-- The records that pass a test, scene by scene. -/
def listing (scenes : List Uuid) (shown : Uuid → List Record) (p : Record → Bool) : List Match :=
  scenes.flatMap fun scene => ((shown scene).filter p).map (Match.mk scene)

section Listing

variable {c : Catalog} {p : Record → Bool}

/-- Scenes in which nothing passes the test can be left out. -/
theorem listing_filter (scenes : List Uuid) (shown : Uuid → List Record) {q : Uuid → Bool}
    (h : ∀ scene ∈ scenes, q scene = false → ∀ r ∈ shown scene, p r = false) :
    listing (scenes.filter q) shown p = listing scenes shown p := by
  induction scenes with
  | nil => rfl
  | cons scene scenes ih =>
    have hrest := ih fun s hs => h s (List.mem_cons_of_mem _ hs)
    cases hq : q scene with
    | true =>
      rw [List.filter_cons_of_pos hq, listing, List.flatMap_cons]
      exact congrArg _ hrest
    | false =>
      have hnone : (shown scene).filter p = [] :=
        List.filter_eq_nil_iff.mpr fun r hr => by simp [h scene List.mem_cons_self hq r hr]
      rw [List.filter_cons_of_neg (by simp [hq]), hrest, listing, listing, List.flatMap_cons, hnone]
      rfl

/-- A scene and a fingerprint are listed together once at most. -/
theorem nodup_listing {scenes : List Scene} (h : Scene.Distinct scenes) (p : Record → Bool) :
    ((listing (scenes.map (·.id)) c.shown p).map fun m => (m.scene, m.record.fingerprint)).Nodup
    := by
  induction scenes with
  | nil => exact List.nodup_nil
  | cons scene scenes ih =>
    obtain ⟨hne, hrest⟩ := List.pairwise_cons.mp h
    rw [List.map_cons, listing, List.flatMap_cons, List.map_append, List.nodup_append]
    refine ⟨?_, ih hrest, ?_⟩
    · -- within a scene the fingerprints of its records are distinct
      rw [List.map_map, List.Nodup, List.pairwise_map]
      refine ((SceneFingerprints.ofRecords (c.records scene.id)).distinct.filter p).imp ?_
      exact fun hf heq => hf (congrArg Prod.snd heq)
    · rintro x hx y hy rfl
      obtain ⟨m, hm, rfl⟩ := List.mem_map.mp hx
      obtain ⟨r, -, rfl⟩ := List.mem_map.mp hm
      obtain ⟨m', hm', heq⟩ := List.mem_map.mp hy
      obtain ⟨id, hid, hm'⟩ := List.mem_flatMap.mp hm'
      obtain ⟨other, hother, rfl⟩ := List.mem_map.mp hid
      obtain ⟨r', -, rfl⟩ := List.mem_map.mp hm'
      exact hne other hother (congrArg Prod.fst heq).symm

/-- The scenes that the store finds list what all scenes list. -/
theorem listing_scenesWith (p : Fingerprint → Bool) :
    listing (c.scenesWith fun r => p r.fingerprint) c.shown (fun r => p r.fingerprint) =
      listing ((Scene.inOrder c.scenes).map (·.id)) c.shown fun r => p r.fingerprint := by
  have hfound : c.scenesWith (fun r => p r.fingerprint) =
      ((Scene.inOrder c.scenes).map (·.id)).filter fun id =>
        (c.records id).any fun r => p r.fingerprint := by
    rw [Catalog.scenesWith, c.distinct.inOrder_filter, List.filter_map]
    rfl
  rw [hfound]
  refine listing_filter _ _ fun id _ hid r hr => ?_
  obtain ⟨q, hq, hf⟩ := Catalog.exists_shown_iff.mp ⟨r, hr, rfl⟩
  simpa [hf] using List.any_eq_false.mp hid q hq

end Listing

/-! ## What the store tells -/

namespace MemoryStore

variable {store : MemoryStore}

theorem tells_load (willing : ∀ n call, store.refuses n call = none) (scene : Uuid) :
    store.Tells (askStore (.load scene) rfl) (.ok (store.catalog.records scene)) :=
  tells_askStore rfl rfl fun n => by simp [respond, answer, willing]

theorem tells_sceneRecords (willing : ∀ n call, store.refuses n call = none) {scene : Uuid}
    (known : (store.catalog.scene? scene).isSome) :
    store.Tells (sceneRecords scene) (.ok (store.catalog.shown scene)) := by
  have hknown : store.Tells (askStore (.sceneExists scene) rfl) (.ok true) :=
    tells_askStore rfl rfl fun n => by simp [respond, answer, willing, known]
  exact hknown.bind ((tells_load willing scene).bind (tells_pure store _))

theorem tells_collectMatches (willing : ∀ n call, store.refuses n call = none)
    (p : Record → Bool) (scenes : List Uuid) :
    store.Tells (collectMatches p scenes) (.ok (listing scenes store.catalog.shown p)) := by
  induction scenes with
  | nil => exact tells_pure store []
  | cons scene scenes ih => exact (tells_load willing scene).bind (ih.bind (tells_pure store _))

/-- A look-up by fingerprints finds what all scenes list. Nothing is listed for no fingerprints. -/
theorem tells_findByFingerprints (willing : ∀ n call, store.refuses n call = none)
    (wanted : List Fingerprint) :
    store.Tells (findByFingerprints wanted)
      (.ok (listing ((Scene.inOrder store.catalog.scenes).map (·.id)) store.catalog.shown fun r =>
        wanted.contains r.fingerprint)) := by
  cases wanted with
  | nil =>
    have hnone : listing ((Scene.inOrder store.catalog.scenes).map (·.id)) store.catalog.shown
        (fun r => ([] : List Fingerprint).contains r.fingerprint) = [] := by simp [listing]
    rw [hnone]
    exact tells_pure store []
  | cons f wanted =>
    have hfound : store.Tells (askStore (.scenesWithFingerprints (f :: wanted)) rfl)
        (.ok (store.catalog.scenesWith fun r => (f :: wanted).contains r.fingerprint)) :=
      tells_askStore rfl rfl fun n => by simp [respond, answer, willing]
    rw [← listing_scenesWith fun g => (f :: wanted).contains g]
    exact hfound.bind (tells_collectMatches willing _ _)

/-- A look-up by digests finds what all scenes list, whatever the hash family. -/
theorem tells_findByHashes (willing : ∀ n call, store.refuses n call = none) {raws : List String}
    (digests : raws.mapM normalizeAnyHash = .ok (raws.map keptHash)) :
    store.Tells (findByHashes raws)
      (.ok (listing ((Scene.inOrder store.catalog.scenes).map (·.id)) store.catalog.shown fun r =>
        (raws.map keptHash).contains r.fingerprint.hash)) := by
  have hsame : (fun r : Record => (raws.map keptHash).contains r.fingerprint.hash) =
      fun r => (sortDistinctTexts (raws.map keptHash)).contains r.fingerprint.hash := by
    funext r
    rw [Bool.eq_iff_iff, List.contains_iff_mem, List.contains_iff_mem, mem_sortDistinctTexts]
  rw [hsame, findByHashes, digests]
  refine (tells_settled store (.ok (raws.map keptHash))).bind ?_
  generalize sortDistinctTexts (raws.map keptHash) = wanted
  cases wanted with
  | nil =>
    have hnone : listing ((Scene.inOrder store.catalog.scenes).map (·.id)) store.catalog.shown
        (fun r => ([] : List String).contains r.fingerprint.hash) = [] := by simp [listing]
    rw [hnone]
    exact tells_pure store []
  | cons t wanted =>
    have hfound : store.Tells (askStore (.scenesWithHashes (t :: wanted)) rfl)
        (.ok (store.catalog.scenesWith fun r => (t :: wanted).contains r.fingerprint.hash)) :=
      tells_askStore rfl rfl fun n => by simp [respond, answer, willing]
    rw [← listing_scenesWith fun g => (t :: wanted).contains g.hash]
    exact hfound.bind (tells_collectMatches willing _ _)

/-- Work of the catalog that runs alone over a store. -/
def ask {α : Type} (store : MemoryStore) (locks : LockTable) (work : Work α) :
    Dialogue.Transcript (Ask StoreCall) (Except CatalogError α) (LockTable × MemoryStore) :=
  Dialogue.run (respondAlone (MemoryStore.respond 0)) work (locks, store)

/-- Look-ups find what going through the scenes finds, where `ordered` are the known scenes in order
and `shown` are the records with which each of them is shown. -/
structure LooksUp (store : MemoryStore) (locks : LockTable) (ordered : List Scene)
    (shown : Uuid → List Record) : Prop where
  known : ordered.Perm store.catalog.scenes
  inOrder : ordered.Pairwise Scene.Before
  view : ∀ scene ∈ ordered, (store.ask locks (sceneRecords scene.id)).result = .ok (shown scene.id)
  /-- A record is shown with those who are recorded for its fingerprint in this scene. -/
  submitters : ∀ scene ∈ ordered, ∀ r ∈ shown scene.id, ∀ u,
    u ∈ r.submitters ↔ store.catalog.Backs scene.id r.fingerprint u
  byFingerprints : ∀ wanted, (store.ask locks (findByFingerprints wanted)).result =
    .ok (listing (ordered.map (·.id)) shown fun r => wanted.contains r.fingerprint)
  byHashes : ∀ raws, (∀ raw ∈ raws, IsDigest raw) →
    (store.ask locks (findByHashes raws)).result =
      .ok (listing (ordered.map (·.id)) shown fun r =>
        (raws.map keptHash).contains r.fingerprint.hash)
  /-- A text that is no digest is reported before anything is asked. -/
  noDigest : ∀ raws, (∃ raw ∈ raws, ¬ IsDigest raw) →
    (store.ask locks (findByHashes raws)).asked = [] ∧
      ∃ raw ∈ raws, ¬ IsDigest raw ∧ ∃ fault,
        (store.ask locks (findByHashes raws)).result = .error (.invalidHash none raw fault)
  /-- Whatever is looked for, a scene and a fingerprint are found together once at most. -/
  once : ∀ p, ((listing (ordered.map (·.id)) shown p).map fun m =>
    (m.scene, m.record.fingerprint)).Nodup

/-- **Look-ups are sound, complete and in order**, over any content of a catalog: stored lists may
repeat a fingerprint, and may belong to scenes that are not known. -/
theorem looksUp_inOrder (store : MemoryStore) (willing : ∀ n call, store.refuses n call = none)
    (locks : LockTable) : ∃ ordered shown, store.LooksUp locks ordered shown := by
  refine ⟨Scene.inOrder store.catalog.scenes, store.catalog.shown, ?_⟩
  have hperm := Scene.inOrder_perm store.catalog.scenes
  refine ⟨hperm, store.catalog.distinct.inOrder, ?_, ?_, ?_, ?_, ?_, ?_⟩
  · intro scene hscene
    refine (tells_sceneRecords willing ?_).result locks
    rw [Catalog.scene?, List.find?_isSome]
    exact ⟨scene, hperm.mem_iff.mp hscene, decide_eq_true rfl⟩
  · exact fun scene _ r hr => Catalog.mem_submitters_shown_iff hr
  · exact fun wanted => (tells_findByFingerprints willing wanted).result locks
  · intro raws hall
    rcases mapM_normalizeAnyHash raws with ⟨-, digests⟩ | ⟨raw, hmem, hbad, -⟩
    · exact (tells_findByHashes willing digests).result locks
    · exact absurd (hall raw hmem) hbad
  · rintro raws ⟨bad, hmem, hbad⟩
    rcases mapM_normalizeAnyHash raws with ⟨hall, -⟩ | ⟨raw, hraw, hno, fault, hmap⟩
    · exact absurd (hall bad hmem) hbad
    · have hdone : findByHashes raws = (.done (.error (.invalidHash none raw fault)) :
          Work (List Match)) := by
        rw [findByHashes, hmap]
        rfl
      rw [hdone]
      exact ⟨rfl, raw, hraw, hno, fault, rfl⟩
  · refine fun p => nodup_listing ?_ p
    exact hperm.symm.pairwise store.catalog.distinct fun hne => hne.symm

/-- A store with two scenes of one time, the later identifier first, where the stored list of the
one repeats a fingerprint that an unknown scene has as well. -/
def repeatedAndUnknown : MemoryStore :=
  let made (user : Nat) : Record := .ofUser ⟨.sample, 10⟩ (.ofNat user) ⟨1, 0⟩
  let scenes := Catalog.ofScenes [.bare (.ofNat 2) ⟨0, 0⟩, .bare (.ofNat 1) ⟨0, 0⟩]
  .of ((scenes.save (.ofNat 1) [made 1, made 2]).save (.ofNat 3) [made 3]) true

theorem looksUp_inOrder_repeated :
    (∀ n call, repeatedAndUnknown.refuses n call = none) ∧
      ∃ ordered shown, repeatedAndUnknown.LooksUp ∅ ordered shown :=
  ⟨fun _ _ => rfl, looksUp_inOrder repeatedAndUnknown (fun _ _ => rfl) ∅⟩

end MemoryStore
end SceneCatalog
