import SceneCatalog.Text.Hex

/-!
Identifiers of 128 bits, their written forms and their order.
-/
namespace SceneCatalog

open Text

/-- An identifier of a scene, a user, a studio, a performer or a tag. -/
structure Uuid where
  bits : BitVec 128
deriving DecidableEq

namespace Uuid

def toNat (u : Uuid) : Nat := u.bits.toNat

def ofNat (n : Nat) : Uuid := ⟨BitVec.ofNat 128 n⟩

/-- Identifiers are ordered as numbers, which is the order of their written forms. -/
instance : LT Uuid := ⟨fun a b => a.toNat < b.toNat⟩

instance : LE Uuid := ⟨fun a b => a.toNat ≤ b.toNat⟩

instance (a b : Uuid) : Decidable (a < b) := inferInstanceAs (Decidable (a.toNat < b.toNat))

instance (a b : Uuid) : Decidable (a ≤ b) := inferInstanceAs (Decidable (a.toNat ≤ b.toNat))

theorem lt_iff {a b : Uuid} : a < b ↔ a.toNat < b.toNat := Iff.rfl

theorem toNat_inj {a b : Uuid} : a.toNat = b.toNat ↔ a = b := by
  cases a; cases b
  simp [toNat, BitVec.toNat_inj]

theorem lt_irrefl (a : Uuid) : ¬ a < a := Nat.lt_irrefl _

theorem lt_trans {a b c : Uuid} (h : a < b) (k : b < c) : a < c := Nat.lt_trans h k

theorem lt_of_not_lt_of_ne {a b : Uuid} (h : ¬ a < b) (k : a ≠ b) : b < a :=
  Nat.lt_of_le_of_ne (Nat.not_lt.mp h) fun e => k (toNat_inj.mp e.symm)

theorem ne_of_lt {a b : Uuid} (h : a < b) : a ≠ b := by
  rintro rfl
  exact lt_irrefl a h

/-- The written form: 32 lower-case digits in groups of 8, 4, 4, 4 and 12. -/
def toString (u : Uuid) : String :=
  let digits := hexDigits 32 u.toNat
  let group (start size : Nat) := (digits.drop start).take size
  String.ofList (group 0 8 ++ ['-'] ++ group 8 4 ++ ['-'] ++ group 12 4 ++ ['-'] ++
    group 16 4 ++ ['-'] ++ group 20 12)

instance : ToString Uuid := ⟨toString⟩

/-- Reads 32 digits. -/
def ofDigits? (cs : List Char) : Option Uuid :=
  if cs.length = 32 then (hexNumber? cs).map ofNat else none

/-- Reads digits in groups of 8, 4, 4, 4 and 12. -/
def ofGroups? (cs : List Char) : Option Uuid :=
  if cs.length = 36 ∧ [8, 13, 18, 23].all (fun i => cs[i]? == some '-') then
    ofDigits? (cs.filter (· != '-'))
  else none

/-- Reads an identifier: bare digits, or groups, which may stand in braces or behind `urn:uuid:`.
Letter case does not matter. -/
def parse? (s : String) : Option Uuid :=
  let cs := s.toList
  match cs.length with
  | 32 => ofDigits? cs
  | 36 => ofGroups? cs
  | 38 =>
    if cs.head? = some '\x7b' ∧ cs.getLast? = some '\x7d' then ofGroups? (cs.tail.dropLast)
    else none
  | 45 =>
    if (cs.take 9).map lowerAsciiChar = "urn:uuid:".toList then ofGroups? (cs.drop 9) else none
  | _ => none

end SceneCatalog.Uuid
