import SceneCatalog.Criterion.Compiled
import SceneCatalog.Filter

/-!
Conditions on the rows of scenes, as they stand behind `WHERE`: their text, the values that are
bound to their parameters, and the condition that a filter stands for.
-/
namespace SceneCatalog.Sql

/-- A value bound to a parameter. -/
inductive Arg where
  | uuid (value : Uuid)
  | text (value : String)
  | int (value : Int)
  | time (value : Timestamp)
  | uuids (values : List Uuid)
  | texts (values : List String)
deriving DecidableEq

/-- The tables that join scenes with many values. -/
inductive JoinTable where
  | performers
  | tags
deriving DecidableEq

def JoinTable.name : JoinTable → String
  | .performers => "scene_performers"
  | .tags => "scene_tags"

def JoinTable.column : JoinTable → String
  | .performers => "performer_id"
  | .tags => "tag_id"

/-- A condition on a scene row `s`. -/
inductive Condition where
  /-- The title matches a pattern, letter case left out of account. -/
  | titleLike (pattern : String)
  /-- The studio is one of the values. -/
  | studioAny (values : List Uuid)
  | studioIsNull
  | studioIsNotNull
  /-- The scene is joined with one of the values. -/
  | joinedAny (table : JoinTable) (values : List Uuid)
  /-- The scene is joined with exactly `count` of the values, each counted once. -/
  | joinedCount (table : JoinTable) (values : List Uuid) (count : Nat)
  | not (c : Condition)
  | or (c d : Condition)
deriving DecidableEq

namespace Condition

/-- The values of a condition, in the order of its parameters. -/
def args : Condition → List Arg
  | .titleLike pattern => [.text pattern]
  | .studioAny values => [.uuids values]
  | .studioIsNull | .studioIsNotNull => []
  | .joinedAny _ values => [.uuids values]
  | .joinedCount _ values count => [.uuids values, .int count]
  | .not c => c.args
  | .or c d => c.args ++ d.args

/-- The text of a condition whose first parameter has the number `first`. Under `NOT` a comparison
stands in parentheses and an `EXISTS` does not. -/
def text (first : Nat) : Condition → String
  | .titleLike _ => s!"s.title ILIKE ${first}"
  | .studioAny _ => s!"s.studio_id = ANY(${first})"
  | .studioIsNull => "s.studio_id IS NULL"
  | .studioIsNotNull => "s.studio_id IS NOT NULL"
  | .joinedAny table _ =>
    s!"EXISTS (SELECT 1 FROM {table.name} j WHERE j.scene_id = s.id AND " ++
      s!"j.{table.column} = ANY(${first}))"
  | .joinedCount table _ _ =>
    s!"(SELECT COUNT(DISTINCT j.{table.column}) FROM {table.name} j WHERE j.scene_id = s.id AND " ++
      s!"j.{table.column} = ANY(${first})) = ${first + 1}"
  | .not (.joinedAny table values) => "NOT " ++ text first (.joinedAny table values)
  | .not c => "NOT (" ++ text first c ++ ")"
  | .or c d => "(" ++ text first c ++ " OR " ++ text (first + c.args.length) d ++ ")"

/-- Writes `\` in front of the characters that mean something in a pattern. -/
def escapeLike (fragment : List Char) : List Char :=
  fragment.flatMap fun c => if c == '%' || c == '_' || c == '\\' then ['\\', c] else [c]

/-- The pattern that matches the texts holding a fragment. -/
def likeFragment (fragment : String) : String :=
  String.ofList (['%'] ++ escapeLike fragment.toList ++ ['%'])

/-- The condition that a compiled criterion stands for. -/
def ofCriterion (c : CompiledCriterion) : Condition :=
  match c with
  | ⟨.studios, .isIn set, _⟩ => .studioAny set.toList
  | ⟨.studios, .notIn set, _⟩ => .or .studioIsNull (.not (.studioAny set.toList))
  | ⟨.studios, .isNull, _⟩ => .studioIsNull
  | ⟨.studios, .notNull, _⟩ => .studioIsNotNull
  | ⟨.performers, .includesAny set, _⟩ => .joinedAny .performers set.toList
  | ⟨.performers, .excludesAll set, _⟩ => .not (.joinedAny .performers set.toList)
  | ⟨.performers, .includesAll set, _⟩ => .joinedCount .performers set.toList set.size
  | ⟨.tags, .includesAny set, _⟩ => .joinedAny .tags set.toList
  | ⟨.tags, .excludesAll set, _⟩ => .not (.joinedAny .tags set.toList)
  | ⟨.tags, .includesAll set, _⟩ => .joinedCount .tags set.toList set.size

/-- The conditions that a compiled filter stands for, all of which have to hold. -/
def ofFilter (filter : CompiledFilter) : List Condition :=
  (filter.title.map fun fragment => .titleLike (likeFragment fragment)).toList ++
    filter.criteria.map ofCriterion

/-- The values of a list of conditions. -/
def allArgs (conditions : List Condition) : List Arg := conditions.flatMap args

/-- The texts of conditions, their parameters numbered from `first`. -/
def texts (first : Nat) : List Condition → List String
  | [] => []
  | c :: rest => c.text first :: texts (first + c.args.length) rest

/-- Conditions behind `WHERE`; nothing if there are none. -/
def whereClause (conditions : List Condition) : String :=
  match texts 1 conditions with
  | [] => ""
  | parts => " WHERE " ++ " AND ".intercalate parts

end Condition

end SceneCatalog.Sql
