/-!
Numbers as they are written in JSON, and which of them a reader takes. A number that is not written
as an integer is taken in double precision, and refused if it is too great for that.
-/
namespace SceneCatalog

/-- A number as it is written: `whole` the digits before the point, `fraction` those behind it,
`power` the power of ten. A missing part is `none`. -/
structure Numeral where
  negative : Bool
  whole : List Char
  fraction : Option (List Char)
  power : Option Int
deriving DecidableEq

namespace Numeral

def ofNat (n : Nat) : Numeral := ⟨false, (toString n).toList, none, none⟩

def ofInt (n : Int) : Numeral := ⟨n < 0, (toString n.natAbs).toList, none, none⟩

/-- The number that digits make. -/
def digitsValue (cs : List Char) : Nat :=
  cs.foldl (fun n c => 10 * n + (c.toNat - '0'.toNat)) 0

/-- The number, if it is written as an integer without a sign. -/
def toNat? (n : Numeral) : Option Nat :=
  match n with
  | ⟨false, whole, none, none⟩ => some (digitsValue whole)
  | _ => none

/-- The number, if it is written as an integer. -/
def toInt? (n : Numeral) : Option Int :=
  match n with
  | ⟨negative, whole, none, none⟩ =>
    some (if negative then -(digitsValue whole : Int) else digitsValue whole)
  | _ => none

/-- Appends digits to a number as long as it stays below 2 to the 64. Gives the number and the
digits that are left. -/
def appendDigits (n : Nat) : List Char → Nat × List Char
  | [] => (n, [])
  | c :: rest =>
    let longer := 10 * n + (c.toNat - '0'.toNat)
    if longer < UInt64.size then appendDigits longer rest else (n, c :: rest)

/-- The leading digits of the number, and the power of ten that belongs to them. A digit for which
there is no room counts only by its place, and so do those behind it. A digit behind the point may
still find room that a digit in front of it did not find. -/
def leading (n : Numeral) : Nat × Int :=
  let fraction := n.fraction.getD []
  let (whole, passed) := appendDigits 0 n.whole
  let (digits, left) := appendDigits whole fraction
  (digits, n.power.getD 0 + passed.length - (fraction.length - left.length : Nat))

/-- A natural number to 53 binary digits; a half goes to the even neighbour. -/
def round53 (n : Nat) : Nat :=
  let unit := Nat.pow 2 (Nat.log2 n - 52)
  let below := n / unit
  let rest := n % unit
  if unit < 2 * rest ∨ (unit = 2 * rest ∧ below % 2 = 1) then (below + 1) * unit
  else below * unit

/-- The least integer that is rounded to infinity in double precision: half a step above the
greatest finite number. -/
def infiniteFrom : Nat := Nat.pow 2 1024 - Nat.pow 2 970

/-- Whether the number is finite when it is computed in double precision, as the product of its
leading digits and a power of ten that are rounded each. -/
def isFinite (n : Numeral) : Bool :=
  let (digits, power) := n.leading
  digits == 0 || power < 0 ||
    (power ≤ 308 && round53 digits * round53 (Nat.pow 10 power.toNat) < infiniteFrom)

/-- Whether a reader stops inside the number: as soon as the power has more than 31 binary digits,
the number is known to be infinite, although digits are left. -/
def isCutShort (n : Numeral) : Bool :=
  n.leading.1 != 0 && 2147483647 < n.power.getD 0 / 10

def toText (n : Numeral) : String :=
  (if n.negative then "-" else "") ++ String.ofList n.whole ++
    (match n.fraction with
      | some digits => "." ++ String.ofList digits
      | none => "") ++
    (match n.power with
      | some power => "e" ++ toString power
      | none => "")

end Numeral

end SceneCatalog
