import SceneCatalog.Proofs.Locks.Transcript
import SceneCatalog.StoreCall

/-!
Computations that resemble each other. They make calls that belong together, and as long as the
answers belong together they go on alike and come to results that do. Run against sides that answer
such calls alike and stay alike, they come to an end alike: what is required of one question and one
answer carries over to whole runs.
-/
namespace SceneCatalog

/-- Two outcomes concur: both are errors that belong together, or both are values that do. -/
inductive Concur {ε α β : Type} (errors : ε → ε → Prop) (values : α → β → Prop) :
    Except ε α → Except ε β → Prop
  | error {e e' : ε} (h : errors e e') : Concur errors values (.error e) (.error e')
  | ok {a : α} {b : β} (h : values a b) : Concur errors values (.ok a) (.ok b)

theorem Concur.refl {ε α : Type} (x : Except ε α) : Concur Eq Eq x x := by
  cases x with
  | error e => exact .error rfl
  | ok a => exact .ok rfl

theorem Concur.mono {ε α β : Type} {errors errors' : ε → ε → Prop} {values values' : α → β → Prop}
    {x : Except ε α} {y : Except ε β} (h : Concur errors values x y)
    (told : ∀ e e', errors e e' → errors' e e') (next : ∀ a b, values a b → values' a b) :
    Concur errors' values' x y := by
  cases h with
  | error h => exact .error (told _ _ h)
  | ok h => exact .ok (next _ _ h)

theorem Concur.map {ε α β γ δ : Type} {errors : ε → ε → Prop} {values : α → β → Prop}
    {after : γ → δ → Prop} {x : Except ε α} {y : Except ε β} (h : Concur errors values x y)
    {f : α → γ} {g : β → δ} (next : ∀ a b, values a b → after (f a) (g b)) :
    Concur errors after (x.map f) (y.map g) := by
  cases h with
  | error h => exact .error h
  | ok h => exact .ok (next _ _ h)

/-- Which calls belong together, and which answers to two calls do. -/
structure Likeness (Call : Type) (Reply : Call → Type) where
  calls : Call → Call → Prop
  replies : (c c' : Call) → Reply c → Reply c' → Prop

section Running

variable {Call : Type} {Reply : Call → Type} {α β γ δ σ τ : Type} {L : Likeness Call Reply}

/-- Running calls that resemble each other: they lock alike, make calls that belong together, and
come to results that do. -/
inductive Running.Resembles (L : Likeness Call Reply) (results : α → β → Prop) :
    Running Call Reply α → Running Call Reply β → Prop
  | done {a : α} {b : β} (h : results a b) : Resembles L results (.done a) (.done b)
  | acquire (scene : Uuid) {next : Unit → Running Call Reply α}
      {next' : Unit → Running Call Reply β} (h : Resembles L results (next ()) (next' ())) :
      Resembles L results (.ask (.acquire scene) next) (.ask (.acquire scene) next')
  | release (scene : Uuid) {next : Unit → Running Call Reply α}
      {next' : Unit → Running Call Reply β} (h : Resembles L results (next ()) (next' ())) :
      Resembles L results (.ask (.release scene) next) (.ask (.release scene) next')
  | call {c c' : Call} {next : Reply c → Running Call Reply α}
      {next' : Reply c' → Running Call Reply β} (calls : L.calls c c')
      (h : ∀ x x', L.replies c c' x x' → Resembles L results (next x) (next' x')) :
      Resembles L results (.ask (.call c) next) (.ask (.call c') next')

variable {results : α → β → Prop} {after : γ → δ → Prop}

theorem Running.Resembles.bind {d : Running Call Reply α} {d' : Running Call Reply β}
    (h : Resembles L results d d') {f : α → Running Call Reply γ}
    {g : β → Running Call Reply δ}
    (next : ∀ a b, results a b → Resembles L after (f a) (g b)) :
    Resembles L after (d.bind f) (d'.bind g) := by
  induction h with
  | done h => exact next _ _ h
  | acquire scene _ ih => exact .acquire scene ih
  | release scene _ ih => exact .release scene ih
  | call calls _ ih => exact .call calls ih

/-- Two sides that answer alike and stay alike. -/
structure Likeness.Served (L : Likeness Call Reply) (respond : (c : Call) → σ → Reply c × σ)
    (respond' : (c : Call) → τ → Reply c × τ) (states : σ → τ → Prop) : Prop where
  replies : ∀ {c c' state state'}, L.calls c c' → states state state' →
    L.replies c c' (respond c state).1 (respond' c' state').1
  states : ∀ {c c' state state'}, L.calls c c' → states state state' →
    states (respond c state).2 (respond' c' state').2

/-- **Runs of computations that resemble each other** come to an end alike. -/
theorem Running.Resembles.transcript {respond : (c : Call) → σ → Reply c × σ}
    {respond' : (c : Call) → τ → Reply c × τ} {states : σ → τ → Prop}
    (served : L.Served respond respond' states) {d : Running Call Reply α}
    {d' : Running Call Reply β} (h : Resembles L results d d') {state : σ} {state' : τ}
    (alike : states state state') :
    let t := Running.transcript respond d state
    let t' := Running.transcript respond' d' state'
    results t.result t'.result ∧ states t.state t'.state := by
  induction h generalizing state state' with
  | done h => exact ⟨h, alike⟩
  | acquire scene _ ih => exact ih alike
  | release scene _ ih => exact ih alike
  | call calls _ ih => exact ih _ _ (served.replies calls alike) (served.states calls alike)

end Running

section Work

variable {L : Likeness StoreCall StoreCall.Reply} {errors : CatalogError → CatalogError → Prop}
  {α β γ δ : Type} {values : α → β → Prop} {after : γ → δ → Prop}

/-- Work that may fail goes on alike where it has not failed. -/
theorem resembles_bind {work : Work α} {work' : Work β}
    (h : Running.Resembles L (Concur errors values) work work') {f : α → Work γ}
    {g : β → Work δ}
    (next : ∀ a b, values a b → Running.Resembles L (Concur errors after) (f a) (g b)) :
    Running.Resembles L (Concur errors after) (work >>= f : Work γ) (work' >>= g : Work δ) :=
  Running.Resembles.bind h fun
    | .ok a, .ok b, .ok h => next a b h
    | .error _, .error _, .error h => .done (.error h)

theorem resembles_pure {a : α} {b : β} (h : values a b) :
    Running.Resembles L (Concur errors values) (pure a : Work α) (pure b : Work β) :=
  .done (.ok h)

end Work

end SceneCatalog
