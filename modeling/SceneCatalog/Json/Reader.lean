import SceneCatalog.Json.Basic
import SceneCatalog.Text.Hex

/-!
Reading JSON text. The bytes of the text are cut into tokens, and the tokens are put together with
the open arrays and objects on a stack, so a text of any depth is read in one pass. Bytes outside of
ASCII can only stand in strings. Where no token or no value fits, the draft ends with `broken`.
-/
namespace SceneCatalog.Json

open Text

/-- The parts of a JSON text. `junk` is the place where no token starts. -/
inductive Token where
  | openArray
  | closeArray
  | openObject
  | closeObject
  | comma
  | colon
  | null
  | bool (value : Bool)
  | number (value : Numeral)
  | string (text : Except Flaw String)
  | junk

/-- A piece of a string: a byte that stands for itself, an escaped character, or an escaped code
unit that is half of a surrogate pair. -/
inductive StringPiece where
  | byte (b : UInt8)
  | char (c : Char)
  | half (unit : Nat)

namespace StringPiece

def ofUnit (n : Nat) : StringPiece :=
  if 0xD800 ≤ n ∧ n ≤ 0xDFFF then .half n else .char (Char.ofNat n)

/-- The bytes of the pieces, behind bytes that are `done`, the last of them first. The first half
of a pair has to have the second half behind it; if the string ends there, the end is taken in its
place. -/
def bytesAfter (done : List UInt8) : List StringPiece → Except Flaw (List UInt8)
  | [] => .ok done.reverse
  | .byte b :: rest => bytesAfter (b :: done) rest
  | .char c :: rest => bytesAfter ((String.utf8EncodeChar c).reverse ++ done) rest
  | .half high :: .half low :: rest =>
    if high < 0xDC00 ∧ 0xDC00 ≤ low then
      let c := Char.ofNat (0x10000 + (high - 0xD800) * 0x400 + (low - 0xDC00))
      bytesAfter ((String.utf8EncodeChar c).reverse ++ done) rest
    else .error .inside
  | [.half unit] => .error (if unit < 0xDC00 then .atEnd else .inside)
  | .half _ :: _ => .error .inside

/-- The text of a string. Whether its bytes are characters is looked at when all have been read. -/
def text (pieces : List StringPiece) : Except Flaw String := do
  match String.fromUTF8? ⟨(← bytesAfter [] pieces).toArray⟩ with
  | some text => .ok text
  | none => .error .atEnd

end StringPiece

/-- The ASCII character of a byte. A byte beyond ASCII gets a character that starts no token. -/
def ascii (byte : UInt8) : Char := Char.ofUInt8 byte

/-- The character that a one-letter escape stands for. -/
def unescape? : Char → Option Char
  | '"' => some '"'
  | '\\' => some '\\'
  | '/' => some '/'
  | 'b' => some '\x08'
  | 'f' => some '\x0c'
  | 'n' => some '\n'
  | 'r' => some '\r'
  | 't' => some '\t'
  | _ => none

/-- Reads a string behind its opening quote. `pieces` are those read so far, the last first. -/
def scanString (pieces : List StringPiece) :
    List UInt8 → Option (Except Flaw String × List UInt8)
  | [] => none
  | byte :: rest =>
    if ascii byte == '"' then some (StringPiece.text pieces.reverse, rest)
    else if ascii byte == '\\' then
      match rest with
      | [] => none
      | escape :: rest =>
        if ascii escape == 'u' then
          match rest with
          | a :: b :: c :: d :: rest =>
            match hexNumber? [ascii a, ascii b, ascii c, ascii d] with
            | some unit => scanString (.ofUnit unit :: pieces) rest
            | none => none
          | _ => none
        else
          match unescape? (ascii escape) with
          | some c => scanString (.char c :: pieces) rest
          | none => none
    else if byte < 0x20 then none
    else scanString (.byte byte :: pieces) rest

def isDigit (byte : UInt8) : Bool := '0' ≤ ascii byte && ascii byte ≤ '9'

/-- The digits in front of a text, and the rest of it. -/
def scanDigits (bytes : List UInt8) : List Char × List UInt8 :=
  ((bytes.takeWhile isDigit).map ascii, bytes.dropWhile isDigit)

/-- The text behind a character, if it starts with that. -/
def behind? (c : Char) : List UInt8 → Option (List UInt8)
  | [] => none
  | byte :: rest => if ascii byte == c then some rest else none

/-- Reads the power of ten behind a number, if there is one. -/
def scanPower (bytes : List UInt8) : Option (Option Int × List UInt8) :=
  match behind? 'e' bytes <|> behind? 'E' bytes with
  | none => some (none, bytes)
  | some rest =>
    let negative := (behind? '-' rest).isSome
    match scanDigits ((behind? '-' rest <|> behind? '+' rest).getD rest) with
    | ([], _) => none
    | (digits, rest) =>
      let value : Int := Numeral.digitsValue digits
      some (some (if negative then -value else value), rest)

/-- Reads a number behind its sign: no leading zero, and digits on both sides of a point. -/
def scanNumber (negative : Bool) (bytes : List UInt8) : Option (Numeral × List UInt8) :=
  let (digits, rest) := scanDigits bytes
  if digits.isEmpty || (digits.head? == some '0' && digits.length != 1) then none
  else
    let (fraction, rest) : Option (List Char) × List UInt8 :=
      match behind? '.' rest with
      | some rest => let (digits, rest) := scanDigits rest; (some digits, rest)
      | none => (none, rest)
    if fraction == some [] then none
    else
      (scanPower rest).map fun (power, rest) =>
        (⟨negative, digits, fraction, power⟩, rest)

/-- The token that a word stands for, if the text goes on with that word. -/
def scanWord (word : String) (token : Token) (bytes : List UInt8) : Token × List UInt8 :=
  let wanted := word.toUTF8.toList
  if bytes.take wanted.length = wanted then (token, bytes.drop wanted.length) else (.junk, [])

/-- The token of a number that was read, if it was. -/
def numberToken : Option (Numeral × List UInt8) → Token × List UInt8
  | some (value, rest) => (.number value, rest)
  | none => (.junk, [])

/-- Reads a token that does not start with a blank, given its first byte and the rest. -/
def scanToken (byte : UInt8) (rest : List UInt8) : Token × List UInt8 :=
  match ascii byte with
  | '[' => (.openArray, rest)
  | ']' => (.closeArray, rest)
  | '\x7b' => (.openObject, rest)
  | '\x7d' => (.closeObject, rest)
  | ',' => (.comma, rest)
  | ':' => (.colon, rest)
  | '"' =>
    match scanString [] rest with
    | some (text, rest) => (.string text, rest)
    | none => (.junk, [])
  | 'n' => scanWord "ull" .null rest
  | 't' => scanWord "rue" (.bool true) rest
  | 'f' => scanWord "alse" (.bool false) rest
  | '-' => numberToken (scanNumber true rest)
  | _ => numberToken (scanNumber false (byte :: rest))

/-- The blanks between tokens. -/
def isGap (byte : UInt8) : Bool :=
  ascii byte == ' ' || ascii byte == '\n' || ascii byte == '\t' || ascii byte == '\r'

/-- Cuts a text into tokens. `fuel` is at least the number of bytes left. -/
def tokensWithin : (fuel : Nat) → List UInt8 → List Token → List Token
  | 0, _, done => done.reverse
  | fuel + 1, bytes, done =>
    match bytes with
    | [] => done.reverse
    | byte :: rest =>
      if isGap byte then tokensWithin fuel rest done
      else
        let (token, rest) := scanToken byte rest
        tokensWithin fuel rest (token :: done)

/-- The tokens of a text. Every token takes at least one byte. -/
def tokens (bytes : List UInt8) : List Token :=
  tokensWithin (bytes.length + 1) bytes []

/-- An array or object that has not been closed, its parts in reverse order. -/
inductive Frame where
  | array (items : List Draft)
  | object (members : List (Option String × Draft))
  | member (members : List (Option String × Draft)) (key : Option String)

/-- What may come next. -/
inductive Expected where
  | value
  | firstItem
  | firstKey
  | key
  | colon
  | separator

/-- Closes a frame whose last part is `last`. -/
def Frame.plug (last : Draft) : Frame → Draft
  | .array items => .array (items.reverse ++ [last])
  | .object members => .object (members.reverse ++ [(none, last)])
  | .member members key => .object (members.reverse ++ [(key, last)])

/-- The draft of a text that breaks off inside the open frames. -/
def breakOff (open_ : List Frame) : Draft :=
  open_.foldl Frame.plug .broken

/-- Puts the tokens together. The flag says whether nothing is left behind the value. -/
def assemble : (expected : Expected) → (frames : List Frame) → List Token → Draft × Bool
  | _, frames, [] => (breakOff frames, false)
  | expected, frames, token :: rest =>
    let complete (value : Draft) (frames : List Frame) : Draft × Bool :=
      match frames with
      | [] => (value, rest.isEmpty)
      | .array items :: frames => assemble .separator (.array (value :: items) :: frames) rest
      | .member members key :: frames =>
        assemble .separator (.object ((key, value) :: members) :: frames) rest
      | .object members :: frames => (breakOff (.object members :: frames), false)
    let start (frames : List Frame) : Draft × Bool :=
      match token with
      | .openArray => assemble .firstItem (.array [] :: frames) rest
      | .openObject => assemble .firstKey (.object [] :: frames) rest
      | .null => complete .null frames
      | .bool value => complete (.bool value) frames
      | .number value => complete (.number value) frames
      | .string text => complete (.string text) frames
      | _ => (breakOff frames, false)
    match expected, token, frames with
    | .value, _, _ => start frames
    | .firstItem, .closeArray, .array items :: outer => complete (.array items.reverse) outer
    | .firstItem, _, _ => start frames
    | .firstKey, .closeObject, .object members :: outer =>
      complete (.object members.reverse) outer
    | .firstKey, .string text, .object members :: outer =>
      assemble .colon (.member members text.toOption :: outer) rest
    | .key, .string text, .object members :: outer =>
      assemble .colon (.member members text.toOption :: outer) rest
    | .colon, .colon, _ => assemble .value frames rest
    | .separator, .comma, .array _ :: _ => assemble .value frames rest
    | .separator, .comma, .object _ :: _ => assemble .key frames rest
    | .separator, .closeArray, .array items :: outer => complete (.array items.reverse) outer
    | .separator, .closeObject, .object members :: outer =>
      complete (.object members.reverse) outer
    | _, _, _ => (breakOff frames, false)

/-- A text that was read: its first value, and whether only blanks follow it. -/
structure Document where
  value : Draft
  ended : Bool

/-- Reads the bytes of a text. -/
def readBytes (bytes : List UInt8) : Document :=
  let (value, ended) := assemble .value [] (tokens bytes)
  ⟨value, ended⟩

def read (s : String) : Document := readBytes s.toUTF8.toList

/-- The value of a text that is JSON throughout. -/
def parse? (s : String) : Option Json :=
  let document := read s
  if document.ended then document.value.toJson? else none

end SceneCatalog.Json
