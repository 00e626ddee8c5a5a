import SceneCatalog.Api.Address
import SceneCatalog.Config
import SceneCatalog.Timestamp

/-!
Limits on how fast one address may call. An address starts with a number of calls in hand; each
call takes one, and one is given back whenever an interval has passed. What has to be remembered of
an address is one time: the time at which it will have all its calls back.
-/
namespace SceneCatalog.Api

structure RateLimit where
  /-- The calls in hand of an address that has not called for long. -/
  burst : Nat
  /-- The nanoseconds after which a call is given back. -/
  interval : Nat
  burst_pos : 0 < burst
  interval_pos : 0 < interval

/-- The time, in nanoseconds, at which each address will have all its calls back. -/
abbrev RateLimit.Debts := List (Address × Int)

namespace RateLimit

/-- The time at which an address has all its calls back after a call at `now`, or `none` if the
call is refused. -/
def charge? (limit : RateLimit) (restored : Option Int) (now : Int) : Option Int :=
  let restored := max (restored.getD now) now + limit.interval
  if restored ≤ now + limit.burst * limit.interval then some restored else none

/-- Whether a call is let through, and what has to be remembered afterwards. A refused call costs
nothing. -/
def take (limit : RateLimit) (now : Int) (address : Address) (debts : Debts) : Bool × Debts :=
  match limit.charge? (debts.lookup address) now with
  | none => (false, debts)
  | some restored => (true, (address, restored) :: debts.filter (·.1 ≠ address))

end RateLimit

end SceneCatalog.Api
