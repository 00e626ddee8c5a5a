import Mathlib.Algebra.Order.Ring.Int
import Mathlib.Tactic.Zify
import SceneCatalog.Api.RateLimit
import SceneCatalog.Proofs.Association

/-!
Which calls of an address a rate limit lets through. Main statement: the calls of an address that
has not called before are all let through just if no window of time holds more of them than the
address has in hand and is given back while the window lasts.
-/
namespace SceneCatalog.Api

/-- The number of calls from a time on, for as long as `length`. -/
def callsWithin (times : List Int) (start : Int) (length : Nat) : Nat :=
  times.countP fun t => start ≤ t ∧ t ≤ start + length

namespace RateLimit

variable (limit : RateLimit)

/-! ## Calls of one address -/

/-- All of the calls at the times `times` are let through, if the address has all its calls back at
`restored`. -/
def Spares : (restored : Option Int) → (times : List Int) → Prop
  | _, [] => True
  | restored, now :: times =>
    ∃ restored', limit.charge? restored now = some restored' ∧ Spares (some restored') times

/-- Each call comes early enough behind `owed` for the calls in hand to last: by then the address
owes an interval for it and for each of the calls before it. -/
def Lasts : (owed : Int) → (times : List Int) → Prop
  | _, [] => True
  | owed, now :: times =>
    owed + limit.interval ≤ now + limit.burst * limit.interval ∧
      Lasts (owed + limit.interval) times

/-- The calls in hand last from each call on, as if it were the first. -/
def LastsThroughout : (times : List Int) → Prop
  | [] => True
  | now :: times => limit.Lasts now (now :: times) ∧ LastsThroughout times

variable {limit} {owed owed' : Int} {times : List Int}

theorem lasts_max : limit.Lasts (max owed owed') times ↔
    limit.Lasts owed times ∧ limit.Lasts owed' times := by
  induction times generalizing owed owed' with
  | nil => simp [Lasts]
  | cons now times ih =>
    have hmax : max owed owed' + limit.interval =
        max (owed + limit.interval) (owed' + limit.interval) := by omega
    rw [Lasts, Lasts, Lasts, hmax, ih, max_le_iff]
    tauto

theorem charge?_eq_some_iff {restored : Option Int} {now restored' : Int} :
    limit.charge? restored now = some restored' ↔
      restored' = max (restored.getD now) now + limit.interval ∧
        max (restored.getD now) now + limit.interval ≤ now + limit.burst * limit.interval := by
  unfold charge?
  dsimp only
  split <;> simp_all [eq_comm]

theorem spares_cons {restored : Option Int} {now : Int} :
    limit.Spares restored (now :: times) ↔
      max (restored.getD now) now + limit.interval ≤ now + limit.burst * limit.interval ∧
        limit.Spares (some (max (restored.getD now) now + limit.interval)) times := by
  simp only [Spares, charge?_eq_some_iff, and_assoc, exists_eq_left]

/-- What an address owes is the most that it owes counted from some call on. -/
theorem spares_some_iff :
    limit.Spares (some owed) times ↔ limit.Lasts owed times ∧ limit.LastsThroughout times := by
  induction times generalizing owed with
  | nil => simp [Spares, Lasts, LastsThroughout]
  | cons now times ih =>
    have hmax : max owed now + limit.interval =
        max (owed + limit.interval) (now + limit.interval) := by omega
    rw [spares_cons, Option.getD_some, ih, hmax, lasts_max, max_le_iff, LastsThroughout, Lasts,
      Lasts]
    tauto

/-- An address that has not called before owes nothing. -/
theorem spares_none_iff : limit.Spares none times ↔ limit.LastsThroughout times := by
  cases times with
  | nil => simp [Spares, LastsThroughout]
  | cons now times =>
    have same : limit.Spares none (now :: times) ↔ limit.Spares (some now) (now :: times) := by
      rw [spares_cons, spares_cons, Option.getD_none, Option.getD_some]
    rw [same, spares_some_iff, LastsThroughout]
    tauto

/-! ## Windows -/

theorem callsWithin_cons {now start : Int} {length : Nat} :
    callsWithin (now :: times) start length =
      callsWithin times start length + if start ≤ now ∧ now ≤ start + length then 1 else 0 := by
  simp [callsWithin, List.countP_cons]

/-- The calls in hand and those given back while `length` passes are as many as are paid for with
the time that they stand for. -/
theorem le_calls_iff {calls length : Nat} :
    calls ≤ limit.burst + length / limit.interval ↔
      calls * limit.interval ≤ length + limit.burst * limit.interval := by
  rw [Nat.add_comm, ← Nat.add_mul_div_right _ _ limit.interval_pos,
    Nat.le_div_iff_mul_le limit.interval_pos]

/-- The calls in a window have been paid for at its end, but for the calls in hand. -/
theorem Lasts.paid (h : limit.Lasts owed times) {start : Int} {length : Nat}
    (called : 0 < callsWithin times start length) :
    owed + callsWithin times start length * limit.interval ≤
      start + length + limit.burst * limit.interval := by
  induction times generalizing owed with
  | nil => simp [callsWithin] at called
  | cons now times ih =>
    obtain ⟨first, rest⟩ := h
    rw [callsWithin_cons] at called ⊢
    by_cases more : 0 < callsWithin times start length
    · have paid := ih rest more
      split
      · rw [Nat.cast_add, Nat.cast_one, add_mul, one_mul]
        omega
      · rw [Nat.add_zero]
        omega
    · have idle : callsWithin times start length = 0 := by omega
      have within : start ≤ now ∧ now ≤ start + length := by
        by_contra without
        rw [idle, if_neg without] at called
        omega
      rw [idle, if_pos within, Nat.zero_add, Nat.cast_one, one_mul]
      omega

/-- The calls in any window are no more than those in hand and those given back within it. -/
theorem LastsThroughout.callsWithin_le (h : limit.LastsThroughout times) (start : Int)
    (length : Nat) : callsWithin times start length ≤ limit.burst + length / limit.interval := by
  induction times with
  | nil => exact Nat.zero_le _
  | cons now times ih =>
    obtain ⟨lasts, rest⟩ := h
    by_cases within : start ≤ now ∧ now ≤ start + length
    · have called : 0 < callsWithin (now :: times) start length := by
        rw [callsWithin_cons, if_pos within]
        omega
      have paid := lasts.paid called
      have bound : callsWithin (now :: times) start length * limit.interval ≤
          length + limit.burst * limit.interval := by
        omega
      exact le_calls_iff.mpr bound
    · rw [callsWithin_cons, if_neg within]
      exact ih rest

theorem lasts_of_forall
    (h : ∀ before now after, times = before ++ now :: after →
      owed + (before.length + 1) * limit.interval ≤ now + limit.burst * limit.interval) :
    limit.Lasts owed times := by
  induction times generalizing owed with
  | nil => trivial
  | cons now times ih =>
    refine ⟨by simpa using h [] now times rfl, ih fun before now' after hsplit => ?_⟩
    have paid := h (now :: before) now' after (by rw [hsplit, List.cons_append])
    rw [List.length_cons, Nat.cast_add, Nat.cast_one, add_mul, one_mul] at paid
    omega

theorem length_le_callsWithin {front : List Int} (back : List Int) {start : Int} {length : Nat}
    (within : ∀ t ∈ front, start ≤ t ∧ t ≤ start + length) :
    front.length ≤ callsWithin (front ++ back) start length := by
  have all : front.countP (fun t => start ≤ t ∧ t ≤ start + length) = front.length :=
    List.countP_eq_length.mpr fun t ht => decide_eq_true (within t ht)
  rw [callsWithin, List.countP_append, all]
  exact Nat.le_add_right _ _

/-- Where times are in order, the window from the first to a later one holds all that are between
them. -/
theorem length_le_callsWithin_of_ordered {before after : List Int} {first last : Int}
    (ordered : (before ++ last :: after).Pairwise (· ≤ ·))
    (least : ∀ t ∈ before ++ last :: after, first ≤ t) :
    before.length + 1 ≤ callsWithin (before ++ last :: after) first (last - first).toNat := by
  obtain ⟨-, -, earlier⟩ := List.pairwise_append.mp ordered
  have hfirst : first ≤ last := least last (by simp)
  have within : ∀ t ∈ before ++ [last], first ≤ t ∧ t ≤ first + (last - first).toNat := by
    intro t ht
    rcases List.mem_append.mp ht with ht | ht
    · have hle := earlier t ht last List.mem_cons_self
      exact ⟨least t (List.mem_append_left _ ht), by omega⟩
    · obtain rfl := List.mem_singleton.mp ht
      exact ⟨hfirst, by omega⟩
  have held := length_le_callsWithin after within
  rwa [List.append_assoc, List.singleton_append, List.length_append, List.length_singleton] at held

/-- The calls in hand last if no window from the first call on has too many. -/
theorem lasts_of_callsWithin_le {now : Int} (ordered : (now :: times).Pairwise (· ≤ ·))
    (h : ∀ length, callsWithin (now :: times) now length ≤ limit.burst + length / limit.interval) :
    limit.Lasts now (now :: times) := by
  have least : ∀ t ∈ now :: times, now ≤ t :=
    List.forall_mem_cons.mpr ⟨le_refl now, (List.pairwise_cons.mp ordered).1⟩
  refine lasts_of_forall fun before last after hsplit => ?_
  rw [hsplit] at ordered least h
  have hle : now ≤ last := least last (by simp)
  have held := length_le_callsWithin_of_ordered ordered least
  have paid := le_calls_iff.mp (held.trans (h (last - now).toNat))
  zify at paid
  rw [Int.toNat_of_nonneg (by omega)] at paid
  omega

theorem lastsThroughout_of_callsWithin_le (ordered : times.Pairwise (· ≤ ·))
    (h : ∀ start length,
      callsWithin times start length ≤ limit.burst + length / limit.interval) :
    limit.LastsThroughout times := by
  induction times with
  | nil => trivial
  | cons now times ih =>
    refine ⟨lasts_of_callsWithin_le ordered (h now), ih (List.pairwise_cons.mp ordered).2 ?_⟩
    intro start length
    refine le_trans ?_ (h start length)
    rw [callsWithin_cons]
    exact Nat.le_add_right _ _

/-- **Which calls are let through.** Of an address that has not called before, all of the calls are
let through just if no window holds more of them than there are in hand and are given back while it
lasts. -/
theorem spares_none_iff_windows (ordered : times.Pairwise (· ≤ ·)) :
    limit.Spares none times ↔
      ∀ start length,
        callsWithin times start length ≤ limit.burst + length / limit.interval := by
  rw [spares_none_iff]
  exact ⟨fun h => h.callsWithin_le, lastsThroughout_of_callsWithin_le ordered⟩

/-! ## What is remembered -/

theorem take_of_charge {now : Int} {address : Address} {debts : Debts} {restored : Int}
    (h : limit.charge? (debts.lookup address) now = some restored) :
    limit.take now address debts =
      (true, (address, restored) :: debts.filter fun e => !decide (e.1 = address)) := by
  simp [take, h]

theorem take_of_not_charge {now : Int} {address : Address} {debts : Debts}
    (h : limit.charge? (debts.lookup address) now = none) :
    limit.take now address debts = (false, debts) := by
  simp [take, h]

/-- A call costs only the address that it comes from. -/
theorem lookup_take_of_ne {now : Int} {address other : Address} {debts : Debts}
    (h : other ≠ address) :
    (limit.take now address debts).2.lookup other = debts.lookup other := by
  cases hcharge : limit.charge? (debts.lookup address) now with
  | none => rw [take_of_not_charge hcharge]
  | some restored =>
    rw [take_of_charge hcharge, lookup_cons_of_ne h, lookup_filter_ne, if_neg h]

end RateLimit

end SceneCatalog.Api
