import Mathlib.Data.List.Forall2
import SceneCatalog.Lookup
import SceneCatalog.Proofs.Consensus.Course
import SceneCatalog.Proofs.Consensus.Plan
import SceneCatalog.Proofs.Resemblance

/-!
Work on the catalog over two stores that accord: they may hold different lists of records and say
different things about their failures, but fail at the same calls and answer everything else alike.
A change that makes the same of the lists of both goes the same way on both, and so does a look-up.
-/
namespace SceneCatalog

/-! ## Stores that accord -/

/-- Answers to two calls of one kind accord: both are failures or neither is, lists that are loaded
belong together as `stored` says, and everything else is the same. `errors` says which failures
belong together. -/
def StoreCall.RepliesAccord (errors : StoreError → StoreError → Prop)
    (stored : List Record → List Record → Prop) : (c c' : StoreCall) → c.Reply → c'.Reply → Prop
  | .sceneExists _, .sceneExists _, x, x' => Concur errors Eq x x'
  | .load _, .load _, x, x' => Concur errors stored x x'
  | .save _ _, .save _ _, x, x' => Concur errors Eq x x'
  | .scenesWithFingerprints _, .scenesWithFingerprints _, x, x' => Concur errors Eq x x'
  | .scenesWithHashes _, .scenesWithHashes _, x, x' => Concur errors Eq x x'
  | .findScenes _ _, .findScenes _ _, x, x' => Concur errors Eq x x'
  | .checkHealth, .checkHealth, x, x' => Concur errors Eq x x'
  | .txLoad _, .txLoad _, x, x' => Concur errors stored x x'
  | .txSave _ _, .txSave _ _, x, x' => Concur errors Eq x x'
  | .txCommit _, .txCommit _, x, x' => Concur errors Eq x x'
  | _, _, _, _ => True

/-- What a likeness has to say of the calls of a store for work on the catalog to go the same way on
both sides. -/
structure Likeness.Accords (L : Likeness StoreCall StoreCall.Reply)
    (errors : StoreError → StoreError → Prop) (stored : List Record → List Record → Prop) :
    Prop where
  reads : ∀ {call : StoreCall}, call.reads = true → L.calls call call
  saves : ∀ scene {rs rs'}, stored rs rs' → L.calls (.txSave scene rs) (.txSave scene rs')
  commits : ∀ scene, L.calls (.txCommit scene) (.txCommit scene)
  drops : ∀ scene, L.calls (.txDrop scene) (.txDrop scene)
  replies : ∀ {c c' x x'}, L.calls c c' → L.replies c c' x x' →
    StoreCall.RepliesAccord errors stored c c' x x'

/-- Errors of the catalog that belong together: they are the same, or they are those of stores whose
failures belong together. -/
inductive CatalogError.Accord (errors : StoreError → StoreError → Prop) :
    CatalogError → CatalogError → Prop
  | same (e : CatalogError) : Accord errors e e
  | store {e e' : StoreError} (h : errors e e') : Accord errors (.store e) (.store e')

section Work

variable {L : Likeness StoreCall StoreCall.Reply} {errors : StoreError → StoreError → Prop}
  {stored : List Record → List Record → Prop} {α β : Type}

theorem ofStore_accord {values : α → β → Prop} {x : Except StoreError α} {x' : Except StoreError β}
    (h : Concur errors values x x') :
    Concur (CatalogError.Accord errors) values (ofStore x) (ofStore x') := by
  cases h with
  | error h => exact .error (.store h)
  | ok h => exact .ok h

theorem settled_resembles (result : Except CatalogError α) :
    Running.Resembles L (Concur (CatalogError.Accord errors) Eq) (ExceptT.mk (.done result) : Work α)
      (ExceptT.mk (.done result) : Work α) :=
  .done ((Concur.refl result).mono (fun _ _ h => h ▸ .same _) fun _ _ h => h)

/-! ## Changes -/

variable {values : α → β → Prop}

/-- What a change makes of two lists: results and collections to be stored that belong together. -/
def EffectsAccord (errors : StoreError → StoreError → Prop)
    (stored : List Record → List Record → Prop) (values : α → β → Prop) :
    Effect α → Effect β → Prop :=
  Concur (CatalogError.Accord errors) fun x x' =>
    values x.1 x'.1 ∧ Option.Rel (fun s s' => stored s.records s'.records) x.2 x'.2

theorem abandon_resembles (accords : L.Accords errors stored) (scene : Uuid)
    {result : Except CatalogError α} {result' : Except CatalogError β}
    (h : Concur (CatalogError.Accord errors) values result result') :
    Running.Resembles L (Concur (CatalogError.Accord errors) values) (abandon scene result)
      (abandon scene result') :=
  .call (accords.drops scene) fun _ _ _ => .release scene (.done h)

theorem leave_resembles (accords : L.Accords errors stored) (scene : Uuid)
    {result : Except CatalogError α} {result' : Except CatalogError β}
    (h : Concur (CatalogError.Accord errors) values result result') :
    Running.Resembles L (Concur (CatalogError.Accord errors) values) (leave scene result)
      (leave scene result') :=
  .release scene (.call (accords.drops scene) fun _ _ _ => .done h)

theorem conclude_resembles (accords : L.Accords errors stored) (scene : Uuid)
    {s s' : SceneFingerprints} {result : α} {result' : β} (h : values result result')
    (kept : stored s.records s'.records) :
    Running.Resembles L (Concur (CatalogError.Accord errors) values) (conclude scene s result)
      (conclude scene s' result') := by
  have saves := accords.saves scene kept
  refine .call saves fun saved saved' hsaved => ?_
  cases accords.replies saves hsaved with
  | error h => exact abandon_resembles accords scene (.error (.store h))
  | ok _ =>
    have commits := accords.commits scene
    refine .call commits fun committed committed' hcommitted => ?_
    cases accords.replies commits hcommitted with
    | error h => exact abandon_resembles accords scene (.error (.store h))
    | ok _ => exact .release scene (.done (.ok h))

/-- **A change** that makes the same of the lists of two stores that accord goes the same way. -/
theorem changeScene_resembles (accords : L.Accords errors stored) (scene : Uuid)
    {effect : SceneFingerprints → Effect α} {effect' : SceneFingerprints → Effect β}
    (made : ∀ {rs rs'}, stored rs rs' →
      EffectsAccord errors stored values (effect (.ofRecords rs)) (effect' (.ofRecords rs'))) :
    Running.Resembles L (Concur (CatalogError.Accord errors) values) (changeScene scene effect)
      (changeScene scene effect') := by
  have asks : L.calls (.sceneExists scene) (.sceneExists scene) := accords.reads rfl
  refine .acquire scene (.call asks fun known known' hknown => ?_)
  cases accords.replies asks hknown with
  | error h => exact .release scene (.done (.error (.store h)))
  | @ok known known' h =>
    obtain rfl : known = known' := h
    cases known with
    | false => exact .release scene (.done (.error (.same _)))
    | true =>
      have loads : L.calls (.txLoad scene) (.txLoad scene) := accords.reads rfl
      refine .call loads fun loaded loaded' hloaded => ?_
      cases accords.replies loads hloaded with
      | error h => exact abandon_resembles accords scene (.error (.store h))
      | ok h =>
        -- the two effects make the same choice: to give up, to leave, or to store
        have heffects := made h
        dsimp only
        generalize effect (.ofRecords _) = outcome at heffects ⊢
        generalize effect' (.ofRecords _) = outcome' at heffects ⊢
        cases heffects with
        | error h => exact leave_resembles accords scene (.error h)
        | @ok x x' h =>
          obtain ⟨result, after⟩ := x
          obtain ⟨result', after'⟩ := x'
          obtain ⟨hresult, hafter⟩ := h
          cases hafter with
          | none => exact leave_resembles accords scene (.ok hresult)
          | some kept => exact conclude_resembles accords scene hresult kept

/-! ## Look-ups -/

/-- A question to the store that asks for no list of records. -/
theorem askStore_resembles (accords : L.Accords errors stored) (call : StoreCall)
    (h : call.Reply = Except StoreError α) (reads : call.reads = true)
    (same : ∀ {x x' : call.Reply}, call.RepliesAccord errors stored call x x' →
      Concur errors Eq (h ▸ x : Except StoreError α) (h ▸ x' : Except StoreError α)) :
    Running.Resembles L (Concur (CatalogError.Accord errors) Eq) (askStore call h)
      (askStore call h) :=
  .call (accords.reads reads) fun _ _ hx =>
    .done (ofStore_accord (same (accords.replies (accords.reads reads) hx)))

theorem askLoad_resembles (accords : L.Accords errors stored) (scene : Uuid) :
    Running.Resembles L (Concur (CatalogError.Accord errors) stored)
      (askStore (.load scene) rfl) (askStore (.load scene) rfl) := by
  have loads : L.calls (.load scene) (.load scene) := accords.reads rfl
  exact .call loads fun _ _ hx => .done (ofStore_accord (accords.replies loads hx))

theorem sceneRecords_resembles (accords : L.Accords errors stored)
    {shown : List Record → List Record → Prop}
    (show_ : ∀ {rs rs'}, stored rs rs' →
      shown (SceneFingerprints.ofRecords rs).records (SceneFingerprints.ofRecords rs').records)
    (scene : Uuid) :
    Running.Resembles L (Concur (CatalogError.Accord errors) shown) (sceneRecords scene)
      (sceneRecords scene) := by
  refine resembles_bind (askStore_resembles accords (.sceneExists scene) rfl rfl id)
    fun known known' hknown => ?_
  obtain rfl : known = known' := hknown
  cases known with
  | false => exact .done (.error (.same _))
  | true =>
    exact resembles_bind (askLoad_resembles accords scene) fun _ _ h => resembles_pure (show_ h)

section Matches

variable {found : Match → Match → Prop}

theorem collectMatches_resembles (accords : L.Accords errors stored) {keep : Record → Bool}
    (picks : ∀ scene {rs rs'}, stored rs rs' → List.Forall₂ found
      (((SceneFingerprints.ofRecords rs).records.filter keep).map (Match.mk scene))
      (((SceneFingerprints.ofRecords rs').records.filter keep).map (Match.mk scene)))
    (scenes : List Uuid) :
    Running.Resembles L (Concur (CatalogError.Accord errors) (List.Forall₂ found))
      (collectMatches keep scenes) (collectMatches keep scenes) := by
  induction scenes with
  | nil => exact resembles_pure .nil
  | cons scene scenes ih =>
    exact resembles_bind (askLoad_resembles accords scene) fun _ _ h =>
      resembles_bind ih fun _ _ hfound => resembles_pure (List.rel_append (picks scene h) hfound)

variable (picks : ∀ (p : Fingerprint → Bool) (scene : Uuid) {rs rs' : List Record}, stored rs rs' →
  List.Forall₂ found
    (((SceneFingerprints.ofRecords rs).records.filter fun r => p r.fingerprint).map
      (Match.mk scene))
    (((SceneFingerprints.ofRecords rs').records.filter fun r => p r.fingerprint).map
      (Match.mk scene)))

include picks

theorem findByFingerprints_resembles (accords : L.Accords errors stored)
    (wanted : List Fingerprint) :
    Running.Resembles L (Concur (CatalogError.Accord errors) (List.Forall₂ found))
      (findByFingerprints wanted) (findByFingerprints wanted) := by
  unfold findByFingerprints
  split
  · exact resembles_pure .nil
  · refine resembles_bind (askStore_resembles accords (.scenesWithFingerprints wanted) rfl rfl id)
      fun scenes scenes' hscenes => ?_
    obtain rfl : scenes = scenes' := hscenes
    exact collectMatches_resembles accords (picks fun f => wanted.contains f) scenes

theorem findByHashes_resembles (accords : L.Accords errors stored) (raws : List String) :
    Running.Resembles L (Concur (CatalogError.Accord errors) (List.Forall₂ found))
      (findByHashes raws) (findByHashes raws) := by
  refine resembles_bind (settled_resembles _) fun hashes hashes' hhashes => ?_
  obtain rfl : hashes = hashes' := hhashes
  dsimp only
  split
  · exact resembles_pure .nil
  · refine resembles_bind (askStore_resembles accords (.scenesWithHashes _) rfl rfl id)
      fun scenes scenes' hscenes => ?_
    obtain rfl : scenes = scenes' := hscenes
    exact collectMatches_resembles accords
      (picks fun f => (sortDistinctTexts hashes).contains f.hash) scenes

end Matches

theorem queryScenes_resembles (accords : L.Accords errors stored) (filter : Filter)
    (spec : PageSpec) (max : UInt32) :
    Running.Resembles L (Concur (CatalogError.Accord errors) Eq) (queryScenes filter spec max)
      (queryScenes filter spec max) := by
  refine resembles_bind (settled_resembles _) fun compiled compiled' hcompiled => ?_
  obtain rfl : compiled = compiled' := hcompiled
  refine resembles_bind (settled_resembles _) fun page page' hpage => ?_
  obtain rfl : page = page' := hpage
  refine resembles_bind (askStore_resembles accords (.findScenes compiled page) rfl rfl id)
    fun found found' hfound => ?_
  obtain rfl : found = found' := hfound
  exact resembles_pure rfl

end Work

end SceneCatalog
