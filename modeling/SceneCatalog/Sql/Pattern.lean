import SceneCatalog.Text.Lower

/-!
Patterns of texts: `%` stands for any characters, `_` for one, and a character behind `\` for
itself.
-/
namespace SceneCatalog.Sql

/-- Whether some end of a text passes a test. -/
def someEnd (p : List Char → Bool) : List Char → Bool
  | [] => p []
  | c :: text => p (c :: text) || someEnd p text

/-- Whether a text starts with a character that passes a test, and what is behind it passes one. -/
def firstThen (here : Char → Bool) (p : List Char → Bool) : List Char → Bool
  | [] => false
  | c :: text => here c && p text

/-- Whether a text matches a pattern. -/
def matchesPattern : (pattern text : List Char) → Bool
  | [] => List.isEmpty
  | '%' :: pattern => someEnd (matchesPattern pattern)
  | '_' :: pattern => firstThen (fun _ => true) (matchesPattern pattern)
  | '\\' :: c :: pattern => firstThen (· == c) (matchesPattern pattern)
  | c :: pattern => firstThen (· == c) (matchesPattern pattern)

/-- Whether a text matches a pattern, letter case left out of account. -/
def matchesIgnoringCase (pattern text : String) : Bool :=
  matchesPattern (Text.lower pattern).toList (Text.lower text).toList

example : matchesIgnoringCase "%50\\% o_f%" "Now 50% OFF" = true := by decide +kernel

end SceneCatalog.Sql
