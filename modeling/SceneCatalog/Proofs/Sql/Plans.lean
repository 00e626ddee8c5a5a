import SceneCatalog.Proofs.Locks.Transcript
import SceneCatalog.Proofs.Sql.Course

/-!
Plans of statements. Whatever the database answers, a call sends the statements of its plan in their
order, up to the first that is refused or that the database could not hold. Here this is shown for
the records of a scene that are replaced by others: each of them is inserted, and then its users,
for the number that the database gave to its row.
-/
namespace SceneCatalog.Sql

/-- A statement and the answer it got. -/
abbrev Sent := Answered Statement Statement.Reply

/-- Whether a statement has been carried out. -/
def accepted (a : Sent) : Bool := a.2.isOk

/-- Whether the database can hold what a statement is to insert. -/
def Statement.fits : Statement → Bool
  | .insertRecord _ record => !tooLong record
  | _ => true

/-! ## What a call has said by its end -/

section Ensures

variable {α β σ : Type}

/-- However its statements are answered, a call has sent what `post` says by its end, and has a
result of which `post` says so. -/
def Talk.Ensures : Talk α → (List Sent → α → Prop) → Prop
  | .done a, post => post [] a
  | .ask (.acquire _) next, post => Ensures (next ()) post
  | .ask (.release _) next, post => Ensures (next ()) post
  | .ask (.call s) next, post => ∀ reply, Ensures (next reply) fun made => post (⟨s, reply⟩ :: made)

theorem Talk.Ensures.transcript {d : Talk α} {post : List Sent → α → Prop} (h : d.Ensures post)
    (respond : (s : Statement) → σ → s.Reply × σ) (state : σ) :
    let t := Running.transcript respond d state
    post t.asked t.result := by
  induction d generalizing post state with
  | done a => exact h
  | ask q next ih =>
    cases q with
    | acquire s => exact ih () h state
    | release s => exact ih () h state
    | call s => exact ih _ (h (respond s state).1) (respond s state).2

theorem Talk.Ensures.bind {d : Talk α} {post : List Sent → α → Prop} (h : d.Ensures post)
    {f : α → Talk β} {post' : List Sent → β → Prop}
    (after : ∀ made a, post made a → (f a).Ensures fun more => post' (made ++ more)) :
    Talk.Ensures (d.bind f) post' := by
  induction d generalizing post post' with
  | done a => exact after [] a h
  | ask q next ih =>
    cases q with
    | acquire s => exact ih () h after
    | release s => exact ih () h after
    | call s => exact fun reply => ih reply (h reply) fun made a => after (⟨s, reply⟩ :: made) a

theorem Talk.Ensures.mono {d : Talk α} {post post' : List Sent → α → Prop} (h : d.Ensures post)
    (implies : ∀ made a, post made a → post' made a) : d.Ensures post' := by
  rw [← Dialogue.bind_done d]
  refine h.bind fun made a hpost => ?_
  change post' (made ++ []) a
  rw [List.append_nil]
  exact implies made a hpost

/-- Work goes on behind a statement if it has been carried out. -/
theorem ensures_query {s : Statement} {next : s.Rows → ExceptT StoreError Talk α}
    {post : List Sent → Except StoreError α → Prop}
    (refused : ∀ text, post [⟨s, .error text⟩] (.error (.query text)))
    (carriedOut : ∀ rows, Talk.Ensures (next rows).run fun made => post (⟨s, .ok rows⟩ :: made)) :
    Talk.Ensures (query s >>= next).run post := by
  rintro (text | rows)
  · exact refused text
  · exact carriedOut rows

end Ensures

/-! ## Plans -/

/-- A plan is carried out up to the first statement that is refused, or that the database could not
hold, which is not sent at all. `whole` says that this is all of it. -/
inductive Goes : List Statement → List Sent → (whole : Bool) → Prop
  | through : Goes [] [] true
  | sent {s : Statement} {plan made whole} (rows : s.Rows) (fits : s.fits = true)
      (rest : Goes plan made whole) : Goes (s :: plan) (⟨s, .ok rows⟩ :: made) whole
  | refused {s : Statement} {plan} (text : String) (fits : s.fits = true) :
      Goes (s :: plan) [⟨s, .error text⟩] false
  | withheld {s : Statement} {plan} (long : s.fits = false) : Goes (s :: plan) [] false

namespace Goes

variable {plan more : List Statement} {made next : List Sent} {whole : Bool}

/-- A plan that has been carried out is followed by another. -/
theorem append (h : Goes plan made true) (after : Goes more next whole) :
    Goes (plan ++ more) (made ++ next) whole := by
  generalize hw : true = w at h
  induction h with
  | through => exact after
  | sent rows fits rest ih => exact .sent rows fits (ih hw)
  | refused text fits => cases hw
  | withheld long => cases hw

theorem order (h : Goes plan made whole) : made.map (·.1) <+: plan := by
  induction h with
  | through => exact List.prefix_rfl
  | sent rows fits rest ih => exact (List.prefix_cons_inj _).mpr ih
  | refused text fits => exact ⟨_, rfl⟩
  | withheld long => exact List.nil_prefix

theorem fits (h : Goes plan made whole) : ∀ a ∈ made, a.1.fits = true := by
  induction h with
  | through => exact List.forall_mem_nil _
  | sent rows fits rest ih => exact List.forall_mem_cons.mpr ⟨fits, ih⟩
  | refused text fits => exact List.forall_mem_singleton.mpr fits
  | withheld long => exact List.forall_mem_nil _

end Goes

/-! ## The plan of a write -/

/-- The number that the database gave to a row it inserted. -/
def number? : Sent → Option Int
  | ⟨.insertRecord _ _, .ok id⟩ => some id
  | _ => none

/-- The numbers that the database gave to the rows it inserted, in their order. -/
def numbers (made : List Sent) : List Int := made.filterMap number?

/-- A plan in which the rows of some records get numbers, the given ones as far as they are given
at all, is followed in what is sent. -/
def Numbered (plan : List Int → List Statement) (records : List Record) (made : List Sent)
    (whole : Bool) : Prop :=
  ∃ ids, ids.length = records.length ∧ numbers made <+: ids ∧ Goes (plan ids) made whole

end SceneCatalog.Sql
