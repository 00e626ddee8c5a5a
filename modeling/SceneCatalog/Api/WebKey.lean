import SceneCatalog.Json.Basic

/-!
Keys that the header of a token may hold. Such a key is not used, but a header with a value in its
place that is no key is refused.
-/
namespace SceneCatalog.Api.WebKey

open Json

def isNull : Draft → Bool
  | .null => true
  | _ => false

def isText : Draft → Bool
  | .string (.ok _) => true
  | _ => false

def isTextList : Draft → Bool
  | .array items => items.all isText
  | _ => false

/-- Nothing, as it may stand behind the name of an algorithm. -/
def isNothing : Draft → Bool
  | .null => true
  | .object members => members.isEmpty
  | _ => false

/-- A name that is accepted: its string, or an object that holds the name with nothing. -/
def isName (accepts : String → Bool) (isNothing : Draft → Bool) : Draft → Bool
  | .string (.ok name) => accepts name
  | .object [(some name, value)] => accepts name && isNothing value
  | _ => false

abbrev Members := List (Option String × Draft)

/-- The values that are given for a name. -/
def valuesOf (members : Members) (name : String) : List Draft :=
  (members.filter (·.1 == some name)).map (·.2)

/-- Whether a name is given once, with a value that fits. -/
def has (members : Members) (name : String) (fits : Draft → Bool) : Bool :=
  match valuesOf members name with
  | [value] => fits value
  | _ => false

/-- Whether a name is not given, or once with `null` or a value that fits. -/
def mayHave (members : Members) (name : String) (fits : Draft → Bool) : Bool :=
  match valuesOf members name with
  | [] => true
  | [value] => isNull value || fits value
  | _ => false

/-- The algorithms of signatures. -/
def signatures : List String :=
  ["HS256", "HS384", "HS512", "ES256", "ES384", "RS256", "RS384", "RS512", "PS256", "PS384",
    "PS512", "EdDSA"]

/-- The algorithms that a key may be meant for: those of signatures and some of encryption. -/
def algorithms : List String := signatures ++ ["RSA1_5", "RSA-OAEP", "RSA-OAEP-256"]

/-- What keys of all kinds may say about themselves. -/
def describesItself (members : Members) : Bool :=
  mayHave members "use" isText && mayHave members "key_ops" isTextList &&
    mayHave members "alg" (isName (algorithms.contains ·) isNothing) && mayHave members "kid" isText &&
    mayHave members "x5u" isText && mayHave members "x5c" isTextList &&
    mayHave members "x5t" isText && mayHave members "x5t#S256" isText

def isKind (members : Members) (kind : String) : Bool :=
  has members "kty" (isName (· == kind) isNull)

def hasCurve (members : Members) : Bool :=
  has members "crv" (isName (["P-256", "P-384", "P-521", "Ed25519"].contains ·) isNull)

/-- Whether the members of one of the kinds of keys are there. -/
def hasKind (members : Members) : Bool :=
  (isKind members "EC" && hasCurve members && has members "x" isText && has members "y" isText) ||
  (isKind members "RSA" && has members "n" isText && has members "e" isText) ||
  (isKind members "oct" && has members "k" isText) ||
  (isKind members "OKP" && hasCurve members && has members "x" isText)

/-- How deep arrays and objects may lie in a member of a key, which lies two deep itself. -/
def maxDepth : Nat := 125

/-- Whether a value is a key. All members are held, whether a key has them or not. -/
def isKey : Draft → Bool
  | .object members =>
    Draft.membersHeld maxDepth members && describesItself members && hasKind members
  | _ => false

end SceneCatalog.Api.WebKey
