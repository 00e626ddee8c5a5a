import SceneCatalog.Error
import SceneCatalog.Text.Parts

/-!
Fingerprints: a hash family and a digest of it. A digest is read with blanks around it and in any
letter case, and is kept in small letters.
-/
namespace SceneCatalog

open Text

/-- Whether `hash` is a digest of the family in its kept form. -/
def Algorithm.Accepts (a : Algorithm) (hash : String) : Prop :=
  hash.toList.length = a.digits ∧ hash.toList.all isLowerHex = true

instance (a : Algorithm) (hash : String) : Decidable (a.Accepts hash) :=
  inferInstanceAs (Decidable (_ ∧ _))

/-- The identity of media content: a hash family and a digest. -/
structure Fingerprint where
  algorithm : Algorithm
  hash : String
  accepted : algorithm.Accepts hash
deriving DecidableEq

/-- The first byte of a character in UTF-8. -/
def Text.leadByte (c : Char) : Nat :=
  let n := c.toNat
  if n < 0x80 then n
  else if n < 0x800 then 0xC0 + n / 0x40
  else if n < 0x10000 then 0xE0 + n / 0x1000
  else 0xF0 + n / 0x40000

/-- The first character that is no digit: its lead byte as a character, and the number of bytes in
front of it. -/
def HashFault.firstCharacter? : (position : Nat) → List Char → Option HashFault
  | _, [] => none
  | position, c :: rest =>
    if isLowerHex c then firstCharacter? (position + 1) rest
    else some (.character (Char.ofNat (leadByte c)) position)

/-- The form in which a digest is kept. -/
def keptHash (raw : String) : String := lowerAscii (trim raw)

namespace Fingerprint

/-- What is wrong with `hash` as a digest of the family: first its length in bytes, then its
characters. -/
def faultOf (a : Algorithm) (hash : String) : HashFault :=
  if hash.utf8ByteSize ≠ a.digits then .length a.digits hash.utf8ByteSize
  else (HashFault.firstCharacter? 0 hash.toList).getD (.length a.digits hash.utf8ByteSize)

/-- The fingerprint of a family with a digest as it was given. -/
def ofRaw (a : Algorithm) (raw : String) : Except CatalogError Fingerprint :=
  let hash := keptHash raw
  if h : a.Accepts hash then .ok ⟨a, hash, h⟩
  else .error (.invalidHash (some a) raw (faultOf a hash))

/-- Reads a fingerprint; the name of the family is looked at first. -/
def parse (family raw : String) : Except CatalogError Fingerprint :=
  match Algorithm.ofName? family with
  | some a => ofRaw a raw
  | none => .error (.unknownAlgorithm family)

instance : ToString Fingerprint := ⟨fun f => s!"{f.algorithm.name}:{f.hash}"⟩

/-- The order by family, then by digest. -/
def le (f g : Fingerprint) : Bool :=
  f.algorithm.rank < g.algorithm.rank ||
    (f.algorithm.rank == g.algorithm.rank && decide (f.hash ≤ g.hash))

/-- The fingerprints in order, each once. -/
def sortDistinct (fs : List Fingerprint) : List Fingerprint :=
  (fs.mergeSort le).eraseDups

/-- A fingerprint to give examples with. -/
def sample : Fingerprint := ⟨.oshash, "00ff00ff00ff00ff", by decide⟩

end Fingerprint

/-- What is wrong with `hash` as a digest whose family is not known: first its length in bytes,
which has to be that of some family, then its characters. -/
def anyHashFault? (hash : String) : Option HashFault :=
  if Algorithm.all.any (·.digits == hash.utf8ByteSize) then HashFault.firstCharacter? 0 hash.toList
  else some (.noSuchLength hash.utf8ByteSize)

/-- The kept form of a digest whose family is not known. -/
def normalizeAnyHash (raw : String) : Except CatalogError String :=
  let hash := keptHash raw
  match anyHashFault? hash with
  | none => .ok hash
  | some fault => .error (.invalidHash none raw fault)

/-- Texts in order, each once. -/
def sortDistinctTexts (texts : List String) : List String :=
  (texts.mergeSort fun s t => decide (s ≤ t)).eraseDups

end SceneCatalog
