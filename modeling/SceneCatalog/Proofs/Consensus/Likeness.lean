import SceneCatalog.Proofs.Consensus.Accord
import SceneCatalog.Proofs.Fingerprints.Alike

/-!
Stores that a user cannot tell apart. They hold stored lists that look alike to the user, answer
calls that differ in such lists only with answers that do, and stay alike. What is worked for the
user on such stores, in no other name than the own, goes the same way on both.
-/
namespace SceneCatalog

/-! ## Calls and answers -/

/-- Calls that a user cannot tell apart: the same, but for the records that are saved. -/
inductive StoreCall.Alike (a : Uuid) : StoreCall → StoreCall → Prop
  | read {call : StoreCall} (h : call.reads = true) : Alike a call call
  | save (scene : Uuid) {rs rs' : List Record} (h : StoredAlike a rs rs') :
      Alike a (.txSave scene rs) (.txSave scene rs')
  | commit (scene : Uuid) : Alike a (.txCommit scene) (.txCommit scene)
  | drop (scene : Uuid) : Alike a (.txDrop scene) (.txDrop scene)

/-- Answers that a user cannot tell apart: the same, but for the records that are loaded. -/
def StoreCall.RepliesAlike (a : Uuid) : (c c' : StoreCall) → c.Reply → c'.Reply → Prop
  | .load _, .load _, x, x' => Concur Eq (StoredAlike a) x x'
  | .txLoad _, .txLoad _, x, x' => Concur Eq (StoredAlike a) x x'
  | _, _, x, x' => HEq x x'

/-- What a user can tell apart. -/
def StoreCall.likeness (a : Uuid) : Likeness StoreCall StoreCall.Reply := ⟨Alike a, RepliesAlike a⟩

/-- Stores that a user cannot tell apart accord. -/
theorem StoreCall.likeness_accords (a : Uuid) : (likeness a).Accords Eq (StoredAlike a) where
  reads := .read
  saves := .save
  commits := .commit
  drops := .drop
  replies := by
    intro c c' x x' calls hx
    cases calls with
    | read reads =>
      cases c with
      | load scene => exact hx
      | txLoad scene => exact hx
      | save scene records => cases reads
      | txSave scene records => cases reads
      | txCommit scene => cases reads
      | txDrop scene => cases reads
      | _ =>
        cases hx
        exact Concur.refl _
    | save scene h =>
      cases hx
      exact Concur.refl _
    | commit scene =>
      cases hx
      exact Concur.refl _
    | drop scene => trivial

/-! ## Stores -/

/-- Catalogs that look alike to a user, in which every scene names every fingerprint once. -/
structure Catalog.Alike (a : Uuid) (c c' : Catalog) : Prop where
  scenes : c.scenes = c'.scenes
  records : ∀ scene, StoredAlike a (c.records scene) (c'.records scene)

/-- Saves of one worker and one scene, of records that look alike to a user. -/
inductive SavesAlike (a : Uuid) : Nat × Uuid × List Record → Nat × Uuid × List Record → Prop
  | mk (worker : Nat) (scene : Uuid) {rs rs' : List Record} (h : StoredAlike a rs rs') :
      SavesAlike a (worker, scene, rs) (worker, scene, rs')

/-- Stores that a user cannot tell apart. -/
structure MemoryStore.Alike (a : Uuid) (m m' : MemoryStore) : Prop where
  catalog : m.catalog.Alike a m'.catalog
  staging : m.staging = m'.staging
  staged : List.Forall₂ (SavesAlike a) m.staged m'.staged
  served : m.served = m'.served
  refuses : ∀ {call call' : StoreCall} (n : Nat), call.Alike a call' →
    m.refuses n call = m'.refuses n call'

namespace Catalog

variable {a : Uuid} {c c' : Catalog}

theorem Alike.save (h : c.Alike a c') (scene : Uuid) {rs rs' : List Record}
    (alike : StoredAlike a rs rs') : (c.save scene rs).Alike a (c'.save scene rs') := by
  refine ⟨h.scenes, fun other => ?_⟩
  rw [records_save, records_save]
  split
  · exact alike
  · exact h.records other

theorem Alike.saveAll {saves saves' : List (Nat × Uuid × List Record)} (h : c.Alike a c')
    (alike : List.Forall₂ (SavesAlike a) saves saves') :
    (c.saveAll saves).Alike a (c'.saveAll saves') := by
  induction alike generalizing c c' with
  | nil => exact h
  | cons hsave _ ih =>
    cases hsave with
    | mk worker scene hrecords => exact ih (h.save scene hrecords)

/-- A look into the stored lists for a fingerprint finds the same scenes. -/
theorem Alike.scenesWith (h : c.Alike a c') (p : Fingerprint → Bool) :
    (c.scenesWith fun r => p r.fingerprint) = c'.scenesWith fun r => p r.fingerprint := by
  have hany : ∀ scene, (c.records scene).any (fun r => p r.fingerprint) =
      (c'.records scene).any fun r => p r.fingerprint := by
    intro scene
    have hmap : ∀ rs : List Record,
        rs.any (fun r => p r.fingerprint) = (rs.map (·.fingerprint)).any p := fun rs => by
      simp [List.any_map, Function.comp_def]
    rw [hmap, hmap, (h.records scene).fingerprints]
  simp only [Catalog.scenesWith, hany, h.scenes]

end Catalog

namespace MemoryStore

variable {a : Uuid} {m m' : MemoryStore}

theorem Alike.of {c c' : Catalog} (h : c.Alike a c') (staging : Bool) :
    (MemoryStore.of c staging).Alike a (.of c' staging) :=
  ⟨h, rfl, .nil, rfl, fun _ _ => rfl⟩

theorem answer_concur {α β : Type} {values : α → β → Prop} {x : α} {y : β} (h : values x y)
    (m m' : MemoryStore) (refused : Option StoreError) :
    Concur Eq values (m.answer refused x).1 (m'.answer refused y).1 := by
  cases refused with
  | none => exact .ok h
  | some e => exact .error rfl

theorem Alike.replies (h : m.Alike a m') (i : Nat) {call call' : StoreCall}
    (calls : call.Alike a call') :
    StoreCall.RepliesAlike a call call' (m.respond i call).1 (m'.respond i call').1 := by
  have hrefuses : m.refuses m.served call = m'.refuses m'.served call' := by
    rw [← h.served]
    exact h.refuses m.served calls
  -- both calls are refused or neither is; beyond that, only loaded records may differ
  cases calls with
  | read reads =>
    cases call with
    | sceneExists scene =>
      simp only [respond, StoreCall.RepliesAlike, hrefuses, Catalog.scene?, h.catalog.scenes]
      cases m'.refuses m'.served (.sceneExists scene) <;> rfl
    | load scene =>
      simp only [respond, hrefuses]
      exact answer_concur (h.catalog.records scene) _ _ _
    | scenesWithFingerprints wanted =>
      simp only [respond, StoreCall.RepliesAlike, hrefuses]
      rw [h.catalog.scenesWith fun f => wanted.contains f]
      cases m'.refuses m'.served (.scenesWithFingerprints wanted) <;> rfl
    | scenesWithHashes wanted =>
      simp only [respond, StoreCall.RepliesAlike, hrefuses]
      rw [h.catalog.scenesWith fun f => wanted.contains f.hash]
      cases m'.refuses m'.served (.scenesWithHashes wanted) <;> rfl
    | findScenes filter page =>
      simp only [respond, StoreCall.RepliesAlike, hrefuses, Catalog.page, Catalog.matching,
        h.catalog.scenes]
      cases m'.refuses m'.served (.findScenes filter page) <;> rfl
    | checkHealth =>
      simp only [respond, StoreCall.RepliesAlike, hrefuses]
      cases m'.refuses m'.served .checkHealth <;> rfl
    | txLoad scene =>
      simp only [respond, hrefuses]
      exact answer_concur (h.catalog.records scene) _ _ _
    | _ => cases reads
  | save scene hrecords =>
    simp only [respond, StoreCall.RepliesAlike, hrefuses]
    cases m'.refuses m'.served (.txSave scene _) <;> rfl
  | commit scene =>
    simp only [respond, StoreCall.RepliesAlike, hrefuses, h.staging]
    cases m'.staging <;> cases m'.refuses m'.served (.txCommit scene) <;> rfl
  | drop scene => exact HEq.rfl

theorem Alike.unstage (h : m.Alike a m') (i : Nat) : (m.unstage i).Alike a (m'.unstage i) :=
  ⟨h.catalog, h.staging, List.rel_filter (fun
    | _, _, .mk worker scene _ => Iff.rfl) h.staged, h.served, h.refuses⟩

theorem Alike.publish (h : m.Alike a m') (i : Nat) : (m.publish i).Alike a (m'.publish i) :=
  ⟨h.catalog.saveAll (List.rel_filter (fun
    | _, _, .mk worker scene _ => Iff.rfl) h.staged), h.staging, (h.unstage i).staged, h.served,
    h.refuses⟩

theorem Alike.count (h : m.Alike a m') :
    ({ m with served := m.served + 1 } : MemoryStore).Alike a
      { m' with served := m'.served + 1 } :=
  ⟨h.catalog, h.staging, h.staged, congrArg (· + 1) h.served, h.refuses⟩

theorem Alike.perform (h : m.Alike a m') (refused : Option StoreError) {after after' : MemoryStore}
    (alike : after.Alike a after') :
    (m.perform refused after).2.Alike a (m'.perform refused after').2 := by
  cases refused with
  | none => exact alike
  | some e => exact h

theorem Alike.states (h : m.Alike a m') (i : Nat) {call call' : StoreCall}
    (calls : call.Alike a call') :
    (m.respond i call).2.Alike a (m'.respond i call').2 := by
  obtain ⟨catalog, staging, staged, served, refuses⟩ := m
  obtain ⟨catalog', staging', staged', served', refuses'⟩ := m'
  obtain rfl : staging = staging' := h.staging
  obtain rfl : served = served' := h.served
  have hrefuses : refuses served call = refuses' served call' := h.refuses served calls
  cases calls with
  | read reads =>
    rw [respond_of_reads _ i reads, respond_of_reads _ i reads]
    exact h.count
  | save scene hrecords =>
    simp only [respond, hrefuses]
    refine h.count.perform _ ?_
    split
    · exact ⟨h.catalog, rfl, List.rel_append h.staged (.cons (.mk i scene hrecords) .nil),
        h.count.served, h.refuses⟩
    · exact ⟨h.catalog.save scene hrecords, rfl, h.staged, h.count.served, h.refuses⟩
  | commit scene =>
    simp only [respond, hrefuses]
    split
    · exact h.count.perform _ (h.count.publish i)
    · exact h.count
  | drop scene => exact h.count.unstage i

/-- A user who asks alike of stores that look alike is answered alike. -/
theorem served_likeness (a : Uuid) (i : Nat) :
    (StoreCall.likeness a).Served (MemoryStore.respond i) (MemoryStore.respond i)
      (MemoryStore.Alike a) :=
  ⟨fun calls h => h.replies i calls, fun calls h => h.states i calls⟩

end MemoryStore

/-! ## Changes -/

/-- Replies to a change that look alike to a user. -/
inductive ChangeReply.Alike (a : Uuid) : ChangeReply → ChangeReply → Prop
  | submitted (outcome : SubmitOutcome) {r r' : Record} (h : r.Alike a r') :
      Alike a (.submitted ⟨outcome, r⟩) (.submitted ⟨outcome, r'⟩)
  | retracted (outcome : RetractOutcome) {r r' : Option Record}
      (h : Option.Rel (Record.Alike a) r r') :
      Alike a (.retracted ⟨outcome, r⟩) (.retracted ⟨outcome, r'⟩)
  | reconciled (summary : Summary) {rs rs' : List Record}
      (h : List.Forall₂ (Record.Alike a) rs rs') :
      Alike a (.reconciled ⟨summary, rs⟩) (.reconciled ⟨summary, rs'⟩)

/-- What a change makes of collections that look alike: replies that do, and collections to be
stored that do. -/
def EffectsAlike (a : Uuid) : Effect ChangeReply → Effect ChangeReply → Prop :=
  Concur Eq fun x x' => x.1.Alike a x'.1 ∧ Option.Rel (SceneFingerprints.Alike a) x.2 x'.2

section Changes

variable {a : Uuid} {s s' : SceneFingerprints} {now : Timestamp}

theorem rel_if {α : Type} {R : α → α → Prop} {x y : α} (h : R x y) (p : Bool) :
    Option.Rel R (if p then some x else none) (if p then some y else none) := by
  cases p with
  | true => exact .some h
  | false => exact .none

/-- **A change that a user makes in no other name.** -/
theorem Change.effect_alike {change : Change} (own : change.acting = a)
    (unnamed : change.namesUsers = false) {effect : SceneFingerprints → Effect ChangeReply}
    (planned : change.plan now = .ok effect) (h : s.Alike a s') :
    EffectsAlike a (effect s) (effect s') := by
  have alone : ∀ u ∈ IdSet.singleton a, u = a := fun u hu => IdSet.mem_singleton.mp hu
  cases change with
  | submit submission =>
    obtain ⟨scene, claimed, acting, users⟩ := submission
    obtain rfl : acting = a := own
    obtain rfl : users = none := by simpa [namesUsers] using unnamed
    cases planned
    refine ((h.submit claimed alone now).map fun x x' hx => ?_).map fun _ _ hx => hx
    obtain ⟨outcome, record, after⟩ := x
    obtain ⟨outcome', record', after'⟩ := x'
    obtain ⟨rfl, hrecord, hafter⟩ := hx
    exact ⟨.submitted outcome hrecord, rel_if hafter outcome.isChange⟩
  | retract retraction =>
    obtain ⟨scene, fingerprint, acting, users⟩ := retraction
    obtain rfl : acting = a := own
    obtain rfl : users = none := by simpa [namesUsers] using unnamed
    cases planned
    obtain ⟨houtcome, hafter⟩ := h.retract fingerprint alone now
    dsimp only [Retraction.effect]
    rw [houtcome]
    exact .ok ⟨.retracted _ (hafter.get? fingerprint), rel_if hafter _⟩
  | reconcile reconciliation =>
    obtain ⟨scene, desired, acting⟩ := reconciliation
    obtain rfl : acting = a := own
    have hdesired : ∀ edit ∈ desired, edit.users = none := by
      simpa [namesUsers] using unnamed
    simp only [plan] at planned
    split at planned
    · cases planned
    cases planned
    refine ((h.reconcile hdesired now).map fun x x' hx => ?_).map fun _ _ hx => hx
    obtain ⟨summary, after⟩ := x
    obtain ⟨summary', after'⟩ := x'
    obtain ⟨rfl, hafter⟩ := hx
    exact ⟨.reconciled summary hafter, rel_if hafter summary.isChange⟩

/-- **A change that a user makes in no other name** goes the same way on stores that look alike. -/
theorem Change.resembles {change : Change} (own : change.acting = a)
    (unnamed : change.namesUsers = false) (now : Timestamp) :
    Running.Resembles (StoreCall.likeness a)
      (Concur (CatalogError.Accord Eq) (ChangeReply.Alike a))
      (change.run now : Work ChangeReply) (change.run now : Work ChangeReply) := by
  rw [Change.run_eq]
  cases planned : change.plan now with
  | error e => exact .done (.error (.same e))
  | ok effect =>
    refine changeScene_resembles (StoreCall.likeness_accords a) change.scene fun h => ?_
    refine (Change.effect_alike own unnamed planned h.ofRecords).mono (fun _ _ h => h ▸ .same _) ?_
    rintro ⟨reply, after⟩ ⟨reply', after'⟩ ⟨hreply, hafter⟩
    refine ⟨hreply, ?_⟩
    cases hafter with
    | none => exact .none
    | some alike => exact .some alike.stored

end Changes

/-! ## Look-ups -/

/-- Found records that look alike to a user. -/
structure Match.Alike (a : Uuid) (m m' : Match) : Prop where
  scene : m.scene = m'.scene
  record : m.record.Alike a m'.record

/-- In lists that look alike, a look for fingerprints finds what looks alike. -/
theorem StoredAlike.picks {a : Uuid} (p : Fingerprint → Bool) (scene : Uuid) {rs rs' : List Record}
    (h : StoredAlike a rs rs') :
    List.Forall₂ (Match.Alike a)
      (((SceneFingerprints.ofRecords rs).records.filter fun r => p r.fingerprint).map
        (Match.mk scene))
      (((SceneFingerprints.ofRecords rs').records.filter fun r => p r.fingerprint).map
        (Match.mk scene)) :=
  List.rel_map (fun _ _ hr => ⟨rfl, hr⟩) (h.ofRecords.keep p)

end SceneCatalog
