import SceneCatalog.Json.Reader
import SceneCatalog.Uuid

/-!
From drafts to typed values. A draft that does not decode has a fault, and of several faults the
one that comes first in the text counts: a text may be refused for a value of the wrong type
although it is broken further on.
-/
namespace SceneCatalog.Json

/-- Why a text does not give a value: it is no JSON, or JSON of another type. -/
inductive Fault where
  | malformed
  | mismatch
deriving DecidableEq

namespace Draft

/-- The fault of a value where another type is wanted. A scalar has been read to its end by then,
so one that is broken in itself is malformed; an array or object has only been opened. -/
def faultOf : Draft → Fault
  | .broken => .malformed
  | .string (.error _) => .malformed
  | .number value => if value.isFinite then .mismatch else .malformed
  | _ => .mismatch

def asString : Draft → Except Fault String
  | .string (.ok text) => .ok text
  | draft => .error draft.faultOf

def asBool : Draft → Except Fault Bool
  | .bool value => .ok value
  | draft => .error draft.faultOf

/-- A natural number below `bound`, written as an integer. -/
def asNatBelow (bound : Nat) : Draft → Except Fault Nat
  | .number value =>
    match value.toNat? with
    | some n => if n < bound then .ok n else .error (Draft.number value).faultOf
    | none => .error (Draft.number value).faultOf
  | draft => .error draft.faultOf

def asUInt32 (draft : Draft) : Except Fault UInt32 :=
  (asNatBelow UInt32.size draft).map UInt32.ofNat

def asUInt64 (draft : Draft) : Except Fault UInt64 :=
  (asNatBelow UInt64.size draft).map UInt64.ofNat

def asUuid (draft : Draft) : Except Fault Uuid := do
  match Uuid.parse? (← draft.asString) with
  | some id => .ok id
  | none => .error .mismatch

/-- A value or `null`. -/
def asNullable (decode : Draft → Except Fault α) : Draft → Except Fault (Option α)
  | .null => .ok none
  | draft => (decode draft).map some

def asList (decode : Draft → Except Fault α) : Draft → Except Fault (List α)
  | .array items => items.mapM decode
  | draft => .error draft.faultOf

/-- One of a fixed set of names: its string, or an object that holds the name with `null`. A value
of any other kind cannot start a name and is malformed. -/
def asName (ofName? : String → Option α) : Draft → Except Fault α
  | .string (.ok text) =>
    match ofName? text with
    | some a => .ok a
    | none => .error .mismatch
  | .object ((some text, value) :: rest) =>
    match ofName? text, value, rest with
    | none, _, _ => .error .mismatch
    | some a, .null, [] => .ok a
    | some _, .null, _ => .error .malformed
    | some _, value, _ => .error value.faultOf
  | _ => .error .malformed

end Draft

/-- A value, or a fault at a place in the text. -/
inductive Located (α : Type) where
  | ok (value : α)
  | fault (place : Nat) (cause : Fault)

namespace Located

def map (f : α → β) : Located α → Located β
  | .ok a => .ok (f a)
  | .fault place cause => .fault place cause

/-- Both values, or the fault that comes first. -/
def ap (f : Located (α → β)) (a : Located α) : Located β :=
  match f, a with
  | .ok f, .ok a => .ok (f a)
  | .fault p x, .ok _ => .fault p x
  | .ok _, .fault q y => .fault q y
  | .fault p x, .fault q y => if q < p then .fault q y else .fault p x

instance : Applicative Located where
  pure := .ok
  map := map
  seq f a := f.ap (a ())

def toExcept : Located α → Except Fault α
  | .ok a => .ok a
  | .fault _ cause => .error cause

end Located

/-- What a field is when it is not given. -/
inductive Absent (α : Type) where
  /-- A fault. -/
  | refused
  /-- This value. -/
  | default (value : α)
  /-- This value, if the record is an object; a fault if it is an array. -/
  | defaultInObject (value : α)

/-- The parts of a record: members by name, or items in the order of the names. -/
structure Fields where
  names : List String
  parts : List (Option String × Draft) ⊕ List Draft

namespace Fields

/-- The place and value of a field, if it is given. -/
def find? (fields : Fields) (name : String) : Option (Nat × Draft) :=
  match fields.parts with
  | .inl members => do
    let place ← members.findIdx? (·.1 == some name)
    return (place, (← members[place]?).2)
  | .inr items => do
    let place ← fields.names.findIdx? (· == name)
    return (place, ← items[place]?)

/-- The place at which a missing field is noticed. -/
def missingPlace (fields : Fields) : Nat :=
  match fields.parts with
  | .inl members => members.length
  | .inr items => items.length

def get (fields : Fields) (name : String) (absent : Absent α) (decode : Draft → Except Fault α) :
    Located α :=
  match fields.find? name with
  | some (place, draft) =>
    match decode draft with
    | .ok a => .ok a
    | .error cause => .fault place cause
  | none =>
    match absent, fields.parts with
    | .default a, _ => .ok a
    | .defaultInObject a, .inl _ => .ok a
    | _, _ => .fault fields.missingPlace .mismatch

/-- The first fault among members that are not fields: a key that is no text, a field given twice,
and any other member whose value is not JSON to its end. -/
def strayMember (names : List String) :
    (place : Nat) → (seen : List String) → List (Option String × Draft) → Located Unit
  | _, _, [] => .ok ()
  | place, _, (none, _) :: _ => .fault place .malformed
  | place, seen, (some key, value) :: rest =>
    if names.contains key then
      if seen.contains key then .fault place .mismatch
      else strayMember names (place + 1) (key :: seen) rest
    else if value.isWhole then strayMember names (place + 1) seen rest
    else .fault place .malformed

/-- The first fault outside the fields. A surplus item of an array is malformed: the array should
have been closed there. -/
def stray (fields : Fields) : Located Unit :=
  match fields.parts with
  | .inl members => strayMember fields.names 0 [] members
  | .inr items =>
    if items.length ≤ fields.names.length then .ok ()
    else .fault fields.names.length .malformed

end Fields

/-- Decodes a record with the fields `names`: an object whose members stand in any order, with
others among them that are skipped, or an array of the fields in order. -/
def Draft.asRecord (names : List String) (build : Fields → Located α) (draft : Draft) :
    Except Fault α :=
  match draft with
  | .object members =>
    let fields : Fields := ⟨names, .inl members⟩
    ((fun _ a => a) <$> fields.stray <*> build fields).toExcept
  | .array items =>
    let fields : Fields := ⟨names, .inr items⟩
    ((fun _ a => a) <$> fields.stray <*> build fields).toExcept
  | draft => .error draft.faultOf

/-- Decodes a whole text, behind whose first value nothing but blanks may follow. A value that
does not decode is noticed before what follows it. -/
def Document.decode (document : Document) (decode : Draft → Except Fault α) : Except Fault α := do
  let a ← decode document.value
  if document.ended then .ok a else .error .malformed

end SceneCatalog.Json
