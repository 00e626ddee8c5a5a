import SceneCatalog.Uuid

/-!
Locks of scenes. A scene has a mutex only while somebody holds or awaits it: the first who asks
makes it, and whoever leaves takes it out of the table unless others refer to it. A mutex is
handed on in the order in which it was asked for.

Mutexes have names, so that two mutexes made for one scene at different times can be told apart.
-/
namespace SceneCatalog

/-- A lock: the worker that holds it and those that wait, the first in front. -/
structure Mutex where
  holder : Option Nat
  waiting : List Nat
deriving DecidableEq

/-- The number of workers that hold or await the lock. -/
def Mutex.users (m : Mutex) : Nat := m.holder.toList.length + m.waiting.length

/-- The mutexes in use. `entries` says which mutex a scene has; `mutexes` also holds mutexes that
are no longer in the table but still held or awaited; `fresh` has not been given to any mutex. -/
structure LockTable where
  entries : List (Uuid × Nat)
  mutexes : List (Nat × Mutex)
  fresh : Nat
deriving DecidableEq

namespace LockTable

def empty : LockTable := ⟨[], [], 0⟩

instance : EmptyCollection LockTable := ⟨empty⟩

/-- The number of scenes that have a mutex. -/
def active (t : LockTable) : Nat := t.entries.length

def mutex? (t : LockTable) (name : Nat) : Option Mutex := t.mutexes.lookup name

def isHeldBy (t : LockTable) (name worker : Nat) : Bool :=
  match t.mutex? name with
  | some m => m.holder == some worker
  | none => false

/-- Replaces the state of a mutex. -/
def update (t : LockTable) (name : Nat) (m : Mutex) : LockTable :=
  { t with mutexes := t.mutexes.map fun entry => if entry.1 = name then (name, m) else entry }

/-- A worker asks for the lock of a scene. Gives the name of the mutex, which the worker now holds
or awaits. -/
def request (t : LockTable) (scene : Uuid) (worker : Nat) : LockTable × Nat :=
  match t.entries.lookup scene with
  | none =>
    ({ entries := t.entries ++ [(scene, t.fresh)]
       mutexes := t.mutexes ++ [(t.fresh, ⟨some worker, []⟩)]
       fresh := t.fresh + 1 }, t.fresh)
  | some name =>
    match t.mutex? name with
    | none => (t, name)
    | some m =>
      match m.holder with
      | none => (t.update name { m with holder := some worker }, name)
      | some _ => (t.update name { m with waiting := m.waiting ++ [worker] }, name)

/-- Takes the mutex of a scene out of the table if nobody but the leaving worker refers to it: one
reference is that of the table, one that of its holder. -/
def reclaim (t : LockTable) (scene : Uuid) : LockTable :=
  match (t.entries.lookup scene).bind t.mutex? with
  | none => t
  | some m =>
    if 1 + m.users ≤ 2 then { t with entries := t.entries.filter fun entry => entry.1 ≠ scene }
    else t

/-- Hands a mutex to the first who waits. A mutex that nobody holds and the table does not know is
gone. -/
def unlock (t : LockTable) (name : Nat) : LockTable :=
  match t.mutex? name with
  | none => t
  | some m =>
    match m.waiting with
    | next :: rest => t.update name ⟨some next, rest⟩
    | [] =>
      if t.entries.any (·.2 == name) then t.update name ⟨none, []⟩
      else { t with mutexes := t.mutexes.filter fun entry => entry.1 ≠ name }

/-- The holder of a mutex leaves: the table entry of the scene is reclaimed while the mutex is
still held, and then the mutex is handed on. -/
def release (t : LockTable) (scene : Uuid) (name : Nat) : LockTable :=
  (t.reclaim scene).unlock name

end LockTable

end SceneCatalog
