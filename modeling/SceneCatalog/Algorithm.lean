/-!
The hash families that media files are fingerprinted with.
-/
namespace SceneCatalog

/-- A hash family. -/
inductive Algorithm where
  /-- MD5 of the whole file. -/
  | md5
  /-- The hash of file size and both ends of the file. -/
  | oshash
  /-- A 64-bit perceptual hash of sampled frames. -/
  | phash
deriving DecidableEq

namespace Algorithm

def all : List Algorithm := [.md5, .oshash, .phash]

def name : Algorithm → String
  | .md5 => "MD5"
  | .oshash => "OSHASH"
  | .phash => "PHASH"

/-- The number of hexadecimal digits of a digest. -/
def digits : Algorithm → Nat
  | .md5 => 32
  | .oshash => 16
  | .phash => 16

/-- The family with exactly that name. -/
def ofName? (s : String) : Option Algorithm := all.find? (·.name == s)

/-- The place in the list of all families, by which they are ordered. -/
def rank : Algorithm → Nat
  | .md5 => 0
  | .oshash => 1
  | .phash => 2

theorem ofName?_name (a : Algorithm) : ofName? a.name = some a := by
  cases a <;> decide

theorem ofName?_eq_some_iff {s : String} {a : Algorithm} : ofName? s = some a ↔ a.name = s := by
  constructor
  · intro h
    simpa using List.find?_some h
  · rintro rfl
    exact ofName?_name a

end SceneCatalog.Algorithm
