import SceneCatalog.Dialogue
import SceneCatalog.Uuid

/-!
What a running call asks of its surroundings: the lock of a scene, and whatever else it calls.
-/
namespace SceneCatalog

/-- A question of a running call, where `Call` are the calls it makes besides locking. -/
inductive Ask (Call : Type) where
  /-- Waits for the lock of a scene. -/
  | acquire (scene : Uuid)
  /-- Gives the lock of a scene back. -/
  | release (scene : Uuid)
  | call (call : Call)

/-- The call that a question makes. -/
def Ask.call? {Call : Type} : Ask Call → Option Call
  | .call c => some c
  | _ => none

/-- The answer to a question, given the answers to calls. -/
abbrev Ask.Answer {Call : Type} (Reply : Call → Type) : Ask Call → Type
  | .acquire _ => Unit
  | .release _ => Unit
  | .call c => Reply c

/-- A call in progress. -/
abbrev Running (Call : Type) (Reply : Call → Type) (α : Type) :=
  Dialogue (Ask Call) (Ask.Answer Reply) α

end SceneCatalog
