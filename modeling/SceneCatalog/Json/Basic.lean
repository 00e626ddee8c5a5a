import SceneCatalog.Json.Numeral

/-!
JSON values, and what a text says up to the place where it stops being JSON. `Json` is what
answers are made of; `Json.Draft` is what a reader makes of a text that may be broken.
-/
namespace SceneCatalog

/-- A JSON value. The members of an object keep their order. -/
inductive Json where
  | null
  | bool (value : Bool)
  | number (value : Numeral)
  | string (text : String)
  | array (items : List Json)
  | object (members : List (String × Json))

/-- Where a reader notices that a string does not stand for a text, because of half of a surrogate
pair or of bytes that are no characters. -/
inductive Json.Flaw where
  /-- Behind the string: all of it has been read. -/
  | atEnd
  /-- Inside the string. -/
  | inside
deriving DecidableEq

/-- What a text says. A string may have a flaw, and a key with a flaw is `none`. `broken` stands
where the text stops being JSON; nothing follows it. -/
inductive Json.Draft where
  | null
  | bool (value : Bool)
  | number (value : Numeral)
  | string (text : Except Flaw String)
  | array (items : List Draft)
  | object (members : List (Option String × Draft))
  | broken

namespace Json

def nat (n : Nat) : Json := .number (.ofNat n)

def int (n : Int) : Json := .number (.ofInt n)

/-- A value that may be missing; `null` if it is. -/
def ofOption (encode : α → Json) : Option α → Json
  | some a => encode a
  | none => .null

def ofList (encode : α → Json) (xs : List α) : Json := .array (xs.map encode)

/-- A character inside a string: quotes, backslashes and controls are escaped. -/
def escape (c : Char) : List Char :=
  if c == '"' then ['\\', '"']
  else if c == '\\' then ['\\', '\\']
  else if c == '\x08' then ['\\', 'b']
  else if c == '\x0c' then ['\\', 'f']
  else if c == '\n' then ['\\', 'n']
  else if c == '\r' then ['\\', 'r']
  else if c == '\t' then ['\\', 't']
  else if c.val < 0x20 then
    let digit (n : Nat) := if n < 10 then Char.ofNat (48 + n) else Char.ofNat (87 + n)
    ['\\', 'u', '0', '0', digit (c.toNat / 16), digit (c.toNat % 16)]
  else [c]

def quote (s : String) : String :=
  "\"" ++ String.ofList (s.toList.flatMap escape) ++ "\""

mutual

/-- The text of a value without blanks. -/
def compact : Json → String
  | .null => "null"
  | .bool value => if value then "true" else "false"
  | .number value => value.toText
  | .string text => quote text
  | .array items => "[" ++ compactItems items ++ "]"
  | .object members => "\x7b" ++ compactMembers members ++ "\x7d"

def compactItems : List Json → String
  | [] => ""
  | [item] => compact item
  | item :: items => compact item ++ "," ++ compactItems items

def compactMembers : List (String × Json) → String
  | [] => ""
  | [(key, value)] => quote key ++ ":" ++ compact value
  | (key, value) :: members => quote key ++ ":" ++ compact value ++ "," ++ compactMembers members

end

/-- The value of the last member with that key. -/
def get? (key : String) : Json → Option Json
  | .object members => (members.reverse.find? (·.1 == key)).map (·.2)
  | _ => none

end Json

namespace Json.Draft

mutual

/-- The value that a draft stands for, if nothing in it is broken. -/
def toJson? : Draft → Option Json
  | .null => some .null
  | .bool value => some (.bool value)
  | .number value => some (.number value)
  | .string text => text.toOption.map .string
  | .array items => (itemsToJson? items).map .array
  | .object members => (membersToJson? members).map .object
  | .broken => none

def itemsToJson? : List Draft → Option (List Json)
  | [] => some []
  | item :: items => do return (← toJson? item) :: (← itemsToJson? items)

def membersToJson? : List (Option String × Draft) → Option (List (String × Json))
  | [] => some []
  | (key, value) :: members => do
    return (← key, ← toJson? value) :: (← membersToJson? members)

/-- Whether the text is JSON to the end of this value; flaws of strings do not matter. -/
def isWhole : Draft → Bool
  | .array items => itemsWhole items
  | .object members => membersWhole members
  | .broken => false
  | _ => true

def itemsWhole : List Draft → Bool
  | [] => true
  | item :: items => isWhole item && itemsWhole items

def membersWhole : List (Option String × Draft) → Bool
  | [] => true
  | (_, value) :: members => isWhole value && membersWhole members

/-- Whether the value can be held in memory: nothing broken, no flaw, every number finite, and at
most `depth` arrays and objects inside each other. -/
def isHeld (depth : Nat) : Draft → Bool
  | .number value => value.isFinite
  | .string text => text.isOk
  | .array items => 0 < depth && itemsHeld (depth - 1) items
  | .object members => 0 < depth && membersHeld (depth - 1) members
  | .broken => false
  | _ => true

def itemsHeld (depth : Nat) : List Draft → Bool
  | [] => true
  | item :: items => isHeld depth item && itemsHeld depth items

def membersHeld (depth : Nat) : List (Option String × Draft) → Bool
  | [] => true
  | (key, value) :: members => key.isSome && isHeld depth value && membersHeld depth members

end

mutual

/-- Whether a reader that tries to hold the value stands behind it afterwards, whether it could be
held or not. A part that cannot be held ends the attempt, and only what closes the arrays and
objects around it is still read. -/
def isPassed (depth : Nat) : Draft → Bool
  | .number value => !value.isCutShort
  | .string (.error .inside) => false
  | .array items => 0 < depth && itemsPassed (depth - 1) items
  | .object members => 0 < depth && membersPassed (depth - 1) members
  | .broken => false
  | _ => true

def itemsPassed (depth : Nat) : List Draft → Bool
  | [] => true
  | [item] => isPassed depth item
  | item :: items => isHeld depth item && itemsPassed depth items

def membersPassed (depth : Nat) : List (Option String × Draft) → Bool
  | [] => true
  | [(key, value)] => key.isSome && isPassed depth value
  | (key, value) :: members => key.isSome && isHeld depth value && membersPassed depth members

end

mutual

/-- A value as the draft of its own text. -/
def ofJson : Json → Draft
  | .null => .null
  | .bool value => .bool value
  | .number value => .number value
  | .string text => .string (.ok text)
  | .array items => .array (ofItems items)
  | .object members => .object (ofMembers members)

def ofItems : List Json → List Draft
  | [] => []
  | item :: items => ofJson item :: ofItems items

def ofMembers : List (String × Json) → List (Option String × Draft)
  | [] => []
  | (key, value) :: members => (some key, ofJson value) :: ofMembers members

end

end SceneCatalog.Json.Draft
