import SceneCatalog.Consensus

/-!
Changes as effects. The three changes of a scene differ in what they make of its collection and in
what they refuse at once; how they go about it is the same for all of them.
-/
namespace SceneCatalog

section Outcomes

variable {ε α β : Type} {x : Except ε α} {b : β}

theorem of_map_ok {f : α → β} (h : x.map f = .ok b) : ∃ a, x = .ok a ∧ f a = b := by
  cases x with
  | error e => cases h
  | ok a => exact ⟨a, rfl, Except.ok.inj h⟩

theorem of_bind_ok {f : α → Except ε β} (h : x.bind f = .ok b) : ∃ a, x = .ok a ∧ f a = .ok b := by
  cases x with
  | error e => cases h
  | ok a => exact ⟨a, rfl, h⟩

theorem of_map_error {f : α → β} {e : ε} (h : x.map f = .error e) : x = .error e := by
  cases x with
  | error e' => exact congrArg Except.error (Except.error.inj h)
  | ok a => cases h

theorem of_bind_error {f : α → Except ε β} {e : ε} (h : x.bind f = .error e) :
    x = .error e ∨ ∃ a, x = .ok a ∧ f a = .error e := by
  cases x with
  | error e' => exact Or.inl (congrArg Except.error (Except.error.inj h))
  | ok a => exact Or.inr ⟨a, rfl, h⟩

theorem of_toOption {a : α} (h : x.toOption = some a) : x = .ok a := by
  cases x with
  | error e => cases h
  | ok b => exact congrArg Except.ok (Option.some.inj h)

end Outcomes

/-- The effect of a change on the collection of its scene, or the reason why it is refused before
anything is asked. -/
def Change.plan (now : Timestamp) :
    Change → Except CatalogError (SceneFingerprints → Effect ChangeReply)
  | .submit s => (resolveUsers s.acting s.users).map fun users current =>
      (s.effect users now current).map (Prod.map .submitted id)
  | .retract r => (resolveUsers r.acting r.users).map fun users current =>
      (r.effect users now current).map (Prod.map .retracted id)
  | .reconcile r =>
      if r.desired.any Edit.namesNobody then .error .emptySubmitters
      else .ok fun current => (r.effect now current).map (Prod.map .reconciled id)

/-- The user in whose name a change is made. -/
def Change.acting : Change → Uuid
  | .submit s => s.acting
  | .retract r => r.acting
  | .reconcile r => r.acting

/-- Whether a change names users that it is about. -/
def Change.namesUsers : Change → Bool
  | .submit s => s.users.isSome
  | .retract r => r.users.isSome
  | .reconcile r => r.desired.any (·.users.isSome)

section Map

variable {α β : Type} (f : α → β) (scene : Uuid)

theorem map_done (result : Except CatalogError α) :
    (f <$> .done result : Work β) = .done (result.map f) := by
  cases result <;> rfl

theorem map_ask (q : Ask StoreCall) (next : q.Answer StoreCall.Reply → Work α) :
    (f <$> .ask q next : Work β) = .ask q fun answer => (f <$> next answer : Work β) := rfl

theorem map_abandon (result : Except CatalogError α) :
    f <$> abandon scene result = abandon scene (result.map f) := by
  simp only [abandon, map_ask, map_done]

theorem map_leave (result : Except CatalogError α) :
    f <$> leave scene result = leave scene (result.map f) := by
  simp only [leave, map_ask, map_done]

theorem map_conclude (after : SceneFingerprints) (result : α) :
    f <$> conclude scene after result = conclude scene after (f result) := by
  unfold conclude
  rw [map_ask]
  congr 1
  funext saved
  match saved with
  | .error e => exact map_abandon f scene _
  | .ok () =>
    refine (map_ask f _ _).trans ?_
    congr 1
    funext committed
    match committed with
    | .error e => exact map_abandon f scene _
    | .ok () => rfl

theorem map_changeScene (effect : SceneFingerprints → Effect α) :
    f <$> changeScene scene effect =
      changeScene scene fun current => (effect current).map (Prod.map f id) := by
  unfold changeScene
  rw [map_ask]
  congr 1
  funext _
  rw [map_ask]
  congr 1
  funext known
  match known with
  | .error e => rfl
  | .ok false => rfl
  | .ok true =>
    refine (map_ask f _ _).trans ?_
    congr 1
    funext loaded
    match loaded with
    | .error e => exact map_abandon f scene _
    | .ok stored =>
      cases h : effect (.ofRecords stored) with
      | error e =>
        simp only [h]
        exact map_leave f scene _
      | ok outcome =>
        obtain ⟨result, after | after⟩ := outcome
        · simp only [h]
          exact map_leave f scene _
        · simp only [h]
          exact map_conclude f scene after result

end Map

/-- A change is either refused at once or runs its effect under the lock of its scene. -/
theorem Change.run_eq (change : Change) (now : Timestamp) :
    change.run now =
      match change.plan now with
      | .error e => (.done (.error e) : Work ChangeReply)
      | .ok effect => changeScene change.scene effect := by
  cases change with
  | submit s =>
    simp only [Change.run, Submission.run, Change.plan]
    cases resolveUsers s.acting s.users with
    | error e => exact map_done _ _
    | ok users => exact map_changeScene _ _ _
  | retract r =>
    simp only [Change.run, Retraction.run, Change.plan]
    cases resolveUsers r.acting r.users with
    | error e => exact map_done _ _
    | ok users => exact map_changeScene _ _ _
  | reconcile r =>
    simp only [Change.run, Reconciliation.run, Change.plan]
    split
    · exact map_done _ _
    · exact map_changeScene _ _ _

end SceneCatalog
