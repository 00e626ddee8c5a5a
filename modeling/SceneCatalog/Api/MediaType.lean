import SceneCatalog.Text.Hex

/-!
The kind of a body, as a request declares it: a type, a subtype, and parameters behind semicolons.
-/
namespace SceneCatalog.Api

open Text

/-- The characters of header values that are plain text. -/
def isPlain (c : Char) : Bool := (' ' ≤ c && c ≤ '~') || c == '\t'

/-- The characters of the names in a media type. -/
def isTokenChar (c : Char) : Bool :=
  ('0' ≤ c && c ≤ '9') || ('A' ≤ c && c ≤ 'Z') || ('a' ≤ c && c ≤ 'z') ||
    "!#$%&'*+-.^_`|~".toList.contains c

namespace MediaType

/-- Where in the parameters a reader stands. -/
inductive Place where
  | nameStart
  | name
  | valueStart
  | value
  | quotedStart
  | quoted
  | afterQuote
  | refused
deriving DecidableEq

/-- The place behind a character. The first character between quotes may be a quote. -/
def Place.next (place : Place) (c : Char) : Place :=
  match place with
  | .nameStart => if c == ' ' then .nameStart else if isTokenChar c then .name else .refused
  | .name => if isTokenChar c then .name else if c == '=' then .valueStart else .refused
  | .valueStart => if c == '"' then .quotedStart else if isTokenChar c then .value else .refused
  | .value => if isTokenChar c then .value else if c == ';' then .nameStart else .refused
  | .quotedStart => if c == '\t' then .refused else .quoted
  | .quoted => if c == '"' then .afterQuote else if c == '\t' then .refused else .quoted
  | .afterQuote =>
    if c == ' ' then .afterQuote else if c == ';' then .nameStart else .refused
  | .refused => .refused

/-- Whether parameters may end here. -/
def Place.isEnd : Place → Bool
  | .nameStart | .valueStart | .value | .afterQuote => true
  | _ => false

/-- Whether the text behind the first semicolon is a list of parameters. -/
def hasParameters (cs : List Char) : Bool := (cs.foldl Place.next .nameStart).isEnd

/-- Whether a subtype is `json`, or has `json` before or behind its last plus. A plus in front of
everything does not count. -/
def isJsonSubtype (cs : List Char) : Bool :=
  let suffix := (cs.reverse.takeWhile (· ≠ '+')).reverse
  let stem := cs.take (cs.length - suffix.length - 1)
  if cs.contains '+' && !stem.isEmpty then
    stem == "json".toList || suffix == "json".toList
  else cs == "json".toList

end MediaType

open MediaType in
/-- Whether a header declares JSON. Letter case does not matter. -/
def declaresJson (header : String) : Bool :=
  let cs := header.toList.map lowerAsciiChar
  let type := cs.takeWhile (· ≠ '/')
  let subtype := (cs.dropWhile (· ≠ '/')).tail.takeWhile (· ≠ ';')
  let behind := (cs.dropWhile (· ≠ '/')).tail.dropWhile (· ≠ ';')
  cs.all isPlain && type == "application".toList && subtype.all isTokenChar &&
    isJsonSubtype subtype && (behind.isEmpty || hasParameters behind.tail)

end SceneCatalog.Api
