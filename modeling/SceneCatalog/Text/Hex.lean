/-!
Hexadecimal digits: the value of a digit, the digit of a value, and numbers of a fixed width; and
what is written with them, bytes in addresses and characters in messages.
-/
namespace SceneCatalog.Text

/-- The value of a hexadecimal digit in either letter case. -/
def hexValue? (c : Char) : Option Nat :=
  if '0' ≤ c ∧ c ≤ '9' then some (c.toNat - '0'.toNat)
  else if 'a' ≤ c ∧ c ≤ 'f' then some (c.toNat - 'a'.toNat + 10)
  else if 'A' ≤ c ∧ c ≤ 'F' then some (c.toNat - 'A'.toNat + 10)
  else none

/-- The characters `0` to `9` and `a` to `f`. -/
def isLowerHex (c : Char) : Bool :=
  ('0' ≤ c && c ≤ '9') || ('a' ≤ c && c ≤ 'f')

/-- The lower-case digit of a value below 16. -/
def hexDigit (n : Nat) : Char :=
  if n < 10 then Char.ofNat ('0'.toNat + n) else Char.ofNat ('a'.toNat + (n - 10))

/-- The `width` lowest hexadecimal digits of `n`, the highest of them first. -/
def hexDigits : (width n : Nat) → List Char
  | 0, _ => []
  | width + 1, n => hexDigits width (n / 16) ++ [hexDigit (n % 16)]

/-- The number that a list of hexadecimal digits writes, `none` if one is no digit. -/
def hexNumber? (cs : List Char) : Option Nat :=
  cs.foldlM (fun n c => (hexValue? c).map (16 * n + ·)) 0

/-- The letters `A` to `Z` made small, all else kept. -/
def lowerAsciiChar (c : Char) : Char :=
  if 'A' ≤ c ∧ c ≤ 'Z' then Char.ofNat (c.toNat + 32) else c

/-- A text with its ASCII letters made small. -/
def lowerAscii (s : String) : String :=
  String.ofList (s.toList.map lowerAsciiChar)

/-- The letters `a` to `z` made capital, all else kept. -/
def upperAsciiChar (c : Char) : Char :=
  if 'a' ≤ c ∧ c ≤ 'z' then Char.ofNat (c.toNat - 32) else c

@[simp] theorem length_hexDigits (width n : Nat) : (hexDigits width n).length = width := by
  induction width generalizing n with
  | zero => rfl
  | succ width ih => simp [hexDigits, ih]

/-! ## Percent signs in addresses -/

/-- The bytes that the bytes of an address stand for. A percent sign without two digits behind it
stands for itself. -/
def percentDecode : List UInt8 → List UInt8
  | 0x25 :: a :: b :: rest =>
    match hexValue? (Char.ofNat a.toNat), hexValue? (Char.ofNat b.toNat) with
    | some high, some low => UInt8.ofNat (16 * high + low) :: percentDecode rest
    | _, _ => 0x25 :: percentDecode (a :: b :: rest)
  | a :: rest => a :: percentDecode rest
  | [] => []
termination_by bytes => bytes.length

/-- The text that a part of an address stands for; `none` if it is no text. -/
def percentDecode? (s : String) : Option String :=
  String.fromUTF8? ⟨(percentDecode s.toUTF8.toList).toArray⟩

/-! ## Characters in messages -/

/-- A number in hexadecimal without leading zeros. -/
def shortHex (n : Nat) : List Char :=
  match (hexDigits 8 n).dropWhile (· == '0') with
  | [] => ['0']
  | cs => cs

/-- The characters that stand for `c` between single quotes. Of the first 256 code points these
are escaped: the quote, the backslash, the controls, the no-break space and the soft hyphen. -/
def escapeChar (c : Char) : List Char :=
  if c == '\'' then ['\\', '\'']
  else if c == '\\' then ['\\', '\\']
  else if c == '\n' then ['\\', 'n']
  else if c == '\t' then ['\\', 't']
  else if c == '\r' then ['\\', 'r']
  else if c.val == 0 then ['\\', '0']
  else if c.val < 0x20 || (0x7F ≤ c.val && c.val ≤ 0xA0) || c.val == 0xAD then
    ['\\', 'u', '\x7b'] ++ shortHex c.toNat ++ ['\x7d']
  else [c]

/-- A character in single quotes. -/
def quoteChar (c : Char) : String :=
  String.ofList (['\''] ++ escapeChar c ++ ['\''])

end SceneCatalog.Text
