import SceneCatalog.Text.Hex
import SceneCatalog.Text.Parts

/-!
Addresses that requests come from, and how they are written. An address may be written in several
ways; what counts is the number.
-/
namespace SceneCatalog.Api

/-- An address of 32 or of 128 bits. -/
inductive Address where
  | short (number : Nat)
  | long (number : Nat)
deriving DecidableEq

namespace Address

open Text

/-- The number with the digits `parts` in the base `base`, the highest first. -/
def join (base : Nat) (parts : List Nat) : Nat := parts.foldl (base * · + ·) 0

/-- A part of a short address: up to three digits. -/
def octet? (s : String) : Option Nat :=
  if s.toList.all Char.isDigit ∧ s.length ≤ 3 then s.toNat?.filter (· < 256) else none

/-- Four numbers below 256 with points between them. -/
def octets? (s : String) : Option (List Nat) :=
  match (parts '.' s).mapM octet? with
  | some [a, b, c, d] => some [a, b, c, d]
  | _ => none

/-- A part of a long address: up to four hexadecimal digits. -/
def group? (s : String) : Option Nat :=
  if s.length = 0 ∨ 4 < s.length then none else hexNumber? s.toList

/-- Groups with colons between them. The last two groups may be written as a short address. -/
def groups? (s : String) : Option (List Nat) :=
  if s = "" then some []
  else
    match (parts ':' s).reverse with
    | [] => some []
    | last :: before => do
      let groups ← before.reverse.mapM group?
      match octets? last with
      | some [a, b, c, d] => return groups ++ [256 * a + b, 256 * c + d]
      | _ => return groups ++ [← group? last]

/-- The eight groups of a long address. Two colons stand for the groups of zeros that are
missing. -/
def long? (s : String) : Option (List Nat) :=
  match s.splitOn "::" with
  | [whole] => (groups? whole).filter (·.length == 8)
  | [before, behind] => do
    let before ← groups? before
    let behind ← groups? behind
    let missing := 8 - before.length - behind.length
    if missing = 0 then none else return before ++ List.replicate missing 0 ++ behind
  | _ => none

/-- Reads an address. A long one stands in brackets, and may say behind a percent sign on which
network it is meant, which does not count. -/
def parse? (s : String) : Option Address :=
  match s.toList with
  | '[' :: rest =>
    if rest.getLast? == some ']' then
      let inner := String.ofList (rest.dropLast.takeWhile (· ≠ '%'))
      (long? inner).map fun groups => .long (join 65536 groups)
    else none
  | _ => (octets? s).map fun octets => .short (join 256 octets)

end Address

end SceneCatalog.Api
