import SceneCatalog.Proofs.Api.Building
import SceneCatalog.Proofs.Api.Layers
import SceneCatalog.Proofs.Api.RateLimit

/-!
How fast an address may call a service, and how fast it may by the documentation. Main statement:
over a service that is built with a rate limit, the calls of an address are all let through just if
no window holds more of them than its calls in hand and one for each interval; an interval lasts as
many seconds as there are to be calls in one second, so the documented rate is let through if it is
one call a second, and if it is greater there are calls that keep it and are refused.
-/
namespace SceneCatalog.Api

/-! ## Sessions -/

/-- The times at which an address calls. -/
def callTimes (client : Address) (requests : List (Timestamp × Request)) : List Int :=
  (requests.filter fun request => request.2.peer = some client).map (·.1.toNanos)

/-- None of the calls of an address is refused for coming too fast. -/
def SparesClient {σ : Type} (client : Address) (exchanges : List (Exchange σ)) : Prop :=
  ∀ x ∈ exchanges, x.request.peer = some client → x.response.status ≠ 429

section Sessions

variable {σ : Type} {s : Service} {limit : RateLimit} {now : Timestamp} {r : Request}
  {client : Address} {around : Surroundings σ}

theorem handle_debts (limited : s.rateLimit = some limit) {debts : RateLimit.Debts} :
    (s.handle now r debts).2 =
      match r.peer with
      | none => debts
      | some peer => (limit.take now.toNanos peer debts).2 := by
  unfold Service.handle
  simp only [limited]
  cases r.peer with
  | none => rfl
  | some peer =>
    dsimp only
    generalize limit.take now.toNanos peer debts = taken
    obtain ⟨_ | _, debts'⟩ := taken <;> rfl

theorem exchange_of_other (limited : s.rateLimit = some limit)
    (respond : (call : StoreCall) → σ → call.Reply × σ) (other : r.peer ≠ some client) :
    (s.exchange respond now r around).2.debts.lookup client = around.debts.lookup client := by
  show (s.handle now r around.debts).2.lookup client = _
  rw [handle_debts limited]
  cases hpeer : r.peer with
  | none => rfl
  | some peer =>
    have hne : client ≠ peer := fun h => other (by rw [hpeer, h])
    exact RateLimit.lookup_take_of_ne hne

/-- A call that its address can pay for is not refused for coming too fast, and is remembered. -/
theorem exchange_of_charge (limited : s.rateLimit = some limit)
    (respond : (call : StoreCall) → σ → call.Reply × σ) (own : r.peer = some client)
    {restored : Int}
    (charge : limit.charge? (around.debts.lookup client) now.toNanos = some restored) :
    (s.exchange respond now r around).1.response.status ≠ 429 ∧
      (s.exchange respond now r around).2.debts.lookup client = some restored := by
  have taken := RateLimit.take_of_charge charge
  have through : s.LetsThrough now r around.debts := by
    intro limit' hlimit
    obtain rfl : limit = limit' := Option.some.inj (limited.symm.trans hlimit)
    exact ⟨client, own, by rw [taken]⟩
  constructor
  · rw [response_of_letsThrough respond around through, send_status]
    exact (answer_inFront respond around.store).1
  · show (s.handle now r around.debts).2.lookup client = _
    rw [handle_debts limited, own]
    simp [taken]

theorem exchange_of_not_charge (limited : s.rateLimit = some limit)
    (respond : (call : StoreCall) → σ → call.Reply × σ) (own : r.peer = some client)
    (charge : limit.charge? (around.debts.lookup client) now.toNanos = none) :
    (s.exchange respond now r around).1.response.status = 429 := by
  have hhandle : (s.handle now r around.debts).1 =
      .done (s.send r (.text 429 "Too Many Requests!")) := by
    unfold Service.handle
    simp only [limited, own, RateLimit.take_of_not_charge charge]
    rfl
  obtain ⟨locks, hexchange⟩ := exchange_eq s respond now r around
  rw [hexchange, hhandle]
  exact send_status r _

/-- What is refused for coming too fast in a session is what the limit refuses at the times of the
calls. -/
theorem session_sparesClient_iff (limited : s.rateLimit = some limit)
    (respond : (call : StoreCall) → σ → call.Reply × σ) (requests : List (Timestamp × Request)) :
    SparesClient client (s.session respond requests around) ↔
      limit.Spares (around.debts.lookup client) (callTimes client requests) := by
  induction requests generalizing around with
  | nil => simp [SparesClient, Service.session, callTimes, RateLimit.Spares]
  | cons request requests ih =>
    obtain ⟨now, r⟩ := request
    have hsession : s.session respond ((now, r) :: requests) around =
        (s.exchange respond now r around).1 ::
          s.session respond requests (s.exchange respond now r around).2 := rfl
    rw [hsession, SparesClient, List.forall_mem_cons]
    show (r.peer = some client → _) ∧ SparesClient client _ ↔ _
    rw [ih]
    by_cases own : r.peer = some client
    · have htimes : callTimes client ((now, r) :: requests) =
          now.toNanos :: callTimes client requests := by simp [callTimes, own]
      rw [htimes, RateLimit.Spares]
      cases charge : limit.charge? (around.debts.lookup client) now.toNanos with
      | none =>
        have refused := exchange_of_not_charge limited respond own charge
        simp [own, refused]
      | some restored =>
        obtain ⟨status, debts⟩ := exchange_of_charge limited respond own charge
        simp [status, debts]
    · have htimes : callTimes client ((now, r) :: requests) = callTimes client requests := by
        simp [callTimes, own]
      rw [htimes, exchange_of_other limited respond own]
      simp [own]

/-! ## The documented rate -/

/-- The nanoseconds of a second. -/
def second : Nat := 1000000000

/-- No second has more than `rate` calls. The end of a second belongs to the next. -/
def KeepsRate (rate : Nat) (times : List Int) : Prop :=
  ∀ start : Int, times.countP (fun t => start ≤ t ∧ t < start + second) ≤ rate

theorem countP_le_add {α : Type} {p q r : α → Bool} (h : ∀ a, p a = true → q a = true ∨ r a = true)
    (l : List α) : l.countP p ≤ l.countP q + l.countP r := by
  induction l with
  | nil => simp
  | cons a l ih =>
    simp only [List.countP_cons]
    have := h a
    split <;> split <;> split <;> simp_all <;> omega

/-- Where the rate is kept, it is kept over many seconds. -/
theorem KeepsRate.many {rate : Nat} {times : List Int} (h : KeepsRate rate times) (start : Int)
    (seconds : Nat) :
    times.countP (fun t => start ≤ t ∧ t < start + seconds * second) ≤ rate * seconds := by
  induction seconds with
  | zero =>
    refine le_of_eq (List.countP_eq_zero.mpr fun t _ => ?_)
    simp
  | succ seconds ih =>
    rw [Nat.mul_succ]
    refine (countP_le_add (fun t ht => ?_) times).trans
      (Nat.add_le_add ih (h (start + seconds * second)))
    simp only [decide_eq_true_eq, Nat.cast_add, Nat.cast_one, add_mul, one_mul] at ht ⊢
    omega

theorem KeepsRate.callsWithin_le {rate : Nat} {times : List Int} (h : KeepsRate rate times)
    (start : Int) (length : Nat) :
    callsWithin times start length ≤ rate * (length / second + 1) := by
  refine (List.countP_mono_left fun t _ ht => ?_).trans (h.many start (length / second + 1))
  have hlt : length < second * (length / second + 1) := Nat.lt_mul_div_succ _ (by decide)
  rw [Nat.mul_comm] at hlt
  simp only [decide_eq_true_eq] at ht ⊢
  omega

/-! ## An address that calls once a second -/

/-- A request of an address to know whether the service is well. -/
def knock (client : Address) : Request where
  method := "GET"
  target := "/health"
  peer := some client

/-- An address that calls once a second. -/
def steady (client : Address) (calls : Nat) : List (Timestamp × Request) :=
  (List.range calls).map fun k : Nat => (⟨k, 0⟩, knock client)

theorem callTimes_steady (calls : Nat) :
    callTimes client (steady client calls) =
      (List.range calls).map fun k : Nat => (k : Int) * second := by
  have own : ∀ request ∈ steady client calls, decide (request.2.peer = some client) = true := by
    intro request hmem
    obtain ⟨k, -, rfl⟩ := List.mem_map.mp hmem
    exact decide_eq_true rfl
  rw [callTimes, List.filter_eq_self.mpr own, steady, List.map_map]
  refine List.map_congr_left fun k _ => ?_
  simp [Timestamp.toNanos, second]

theorem steady_ordered (calls : Nat) :
    (callTimes client (steady client calls)).Pairwise (· ≤ ·) := by
  rw [callTimes_steady, List.pairwise_map]
  refine List.pairwise_lt_range.imp fun {k l} h => ?_
  have hle : (k : Int) ≤ l := by omega
  exact Int.mul_le_mul_of_nonneg_right hle (Int.natCast_nonneg second)

theorem steady_keepsRate (calls : Nat) : KeepsRate 1 (callTimes client (steady client calls)) := by
  intro start
  rw [callTimes_steady, List.countP_map]
  induction calls with
  | zero => simp
  | succ calls ih =>
    rw [List.range_succ, List.countP_append, List.countP_singleton]
    split
    · -- the calls before are more than a second away from this one
      rename_i within
      have idle : (List.range calls).countP
          ((fun t : Int => decide (start ≤ t ∧ t < start + second)) ∘
            fun k : Nat => (k : Int) * second) = 0 := by
        refine List.countP_eq_zero.mpr fun k hk hk' => ?_
        have hlt := List.mem_range.mp hk
        have last : start ≤ (calls : Int) * second ∧ (calls : Int) * second < start + second :=
          of_decide_eq_true within
        have earlier : start ≤ (k : Int) * second ∧ (k : Int) * second < start + second :=
          of_decide_eq_true hk'
        rw [show (second : Int) = 1000000000 from rfl] at last earlier
        omega
      rw [idle]
    · exact ih

theorem callsWithin_steady (calls : Nat) :
    callsWithin (callTimes client (steady client (calls + 1))) 0 (calls * second) = calls + 1 := by
  rw [callTimes_steady, callsWithin, List.countP_eq_length.mpr, List.length_map, List.length_range]
  intro t ht
  obtain ⟨k, hk, rfl⟩ := List.mem_map.mp ht
  have hle : k * second ≤ calls * second :=
    Nat.mul_le_mul_right _ (Nat.lt_succ_iff.mp (List.mem_range.mp hk))
  refine decide_eq_true ?_
  omega

/-- A call a second is a documented rate of any kind, but uses the calls in hand up if one is given
back only every other second. -/
theorem steady_exceeds {rate : Nat} (interval : limit.interval = rate * second) (slow : 2 ≤ rate) :
    let calls := 2 * limit.burst
    limit.burst + calls * second / limit.interval <
      callsWithin (callTimes client (steady client (calls + 1))) 0 (calls * second) := by
  intro calls
  rw [callsWithin_steady, ← Nat.not_le, RateLimit.le_calls_iff, interval, ← Nat.mul_assoc,
    ← Nat.mul_assoc, ← Nat.add_mul]
  intro bound
  have owed := Nat.le_of_mul_le_mul_right bound (by decide)
  have half : 2 * limit.burst ≤ limit.burst * rate := by
    rw [Nat.mul_comm]
    exact Nat.mul_le_mul_left _ slow
  rw [Nat.add_mul, Nat.one_mul, Nat.mul_assoc] at owed
  omega

/-! ## Configurations -/

/-- A service that is built with a rate limit gives back a call of an address after as many seconds
as there are to be calls in a second. -/
theorem rateLimit_of_built {config : Config} {persistent emptyNames : Bool}
    (built : Service.ofConfig config persistent emptyNames = .ok s)
    (enabled : config.rateLimitEnabled = true) :
    ∃ limit, s.rateLimit = some limit ∧ limit.burst = config.rateLimitBurst.toNat ∧
      limit.interval = config.rateLimitPerSecond.toNat * second := by
  obtain ⟨-, hlimit⟩ := Service.of_built built
  unfold Service.rateLimitOf at hlimit
  rw [if_pos enabled] at hlimit
  dsimp only at hlimit
  split at hlimit
  · exact ⟨_, (Except.ok.inj hlimit).symm, rfl, rfl⟩
  · cases hlimit

end Sessions

/-- **The documented rate.** Over a service that is built with a rate limit, the calls of an address
that has not called before are let through just if no window holds more of them than there are in
hand and are given back while it lasts, one in as many seconds as there are to be calls in one. That
the calls are let through wherever no second has more of them than are documented is so for a rate
of one, and for no other. -/
theorem rates_admitted {σ : Type} {config : Config} {persistent emptyNames : Bool} {s : Service}
    (built : Service.ofConfig config persistent emptyNames = .ok s)
    (enabled : config.rateLimitEnabled = true)
    (respond : (call : StoreCall) → σ → call.Reply × σ) (around : Surroundings σ)
    (client : Address) (fresh : around.debts.lookup client = none) :
    let rate := config.rateLimitPerSecond.toNat
    (∀ requests, (callTimes client requests).Pairwise (· ≤ ·) →
      (SparesClient client (s.session respond requests around) ↔
        ∀ start length, callsWithin (callTimes client requests) start length ≤
          config.rateLimitBurst.toNat + length / (rate * second))) ∧
    ((∀ requests, (callTimes client requests).Pairwise (· ≤ ·) →
        KeepsRate rate (callTimes client requests) →
        SparesClient client (s.session respond requests around)) ↔
      rate = 1) := by
  intro rate
  obtain ⟨limit, limited, hburst, hinterval⟩ := rateLimit_of_built built enabled
  change limit.interval = rate * second at hinterval
  clear_value rate
  rw [← hburst, ← hinterval]
  have windows : ∀ requests, (callTimes client requests).Pairwise (· ≤ ·) →
      (SparesClient client (s.session respond requests around) ↔
        ∀ start length, callsWithin (callTimes client requests) start length ≤
          limit.burst + length / limit.interval) := by
    intro requests ordered
    rw [session_sparesClient_iff limited respond, fresh, RateLimit.spares_none_iff_windows ordered]
  have pos : 0 < rate := Nat.pos_of_mul_pos_right (hinterval ▸ limit.interval_pos)
  refine ⟨windows, fun admitted => ?_, fun one requests ordered keeps => ?_⟩
  · by_contra many
    have spared := admitted (steady client (2 * limit.burst + 1)) (steady_ordered _) fun start =>
      (steady_keepsRate _ start).trans pos
    exact absurd ((windows _ (steady_ordered _)).mp spared 0 _)
      (Nat.not_le.mpr (steady_exceeds hinterval (by omega)))
  · refine (windows requests ordered).mpr fun start length => ?_
    have within := keeps.callsWithin_le start length
    have hand := limit.burst_pos
    rw [one, Nat.one_mul] at within hinterval
    rw [hinterval]
    omega

/-- A configuration with two calls in hand, and two calls in a second as it is put down. -/
def doubleConfig : Config :=
  { Config.default with rateLimitEnabled := true, rateLimitPerSecond := 2, rateLimitBurst := 2 }

def doubleLimit : RateLimit := ⟨2, 2 * second, by decide, by decide⟩

def doubleService : Service where
  origins := .any
  bodyLimit := 2 * Config.mebibyte
  rateLimit := some doubleLimit
  secret := none
  maxPerPage := 100
  persistent := false
  emptyNames := true

theorem doubleService_built : Service.ofConfig doubleConfig false true = .ok doubleService := by
  have small : ¬ UInt64.size ≤ doubleConfig.bodyLimitMb.toNat * Config.mebibyte := by decide
  have hlimit : Service.rateLimitOf doubleConfig = .ok (some doubleLimit) := rfl
  simp only [Service.ofConfig, if_neg small, hlimit]
  rfl

/-- Two calls at once, and a third after a while. -/
def thrice (client : Address) (seconds : Int) : List (Timestamp × Request) :=
  [(⟨0, 0⟩, knock client), (⟨0, 0⟩, knock client), (⟨seconds, 0⟩, knock client)]

theorem callTimes_thrice (client : Address) (seconds : Int) :
    callTimes client (thrice client seconds) = [0, 0, seconds * 1000000000] := by
  simp [callTimes, thrice, knock, Timestamp.toNanos]

/-- A second later, the third call is refused, although no second has more than two. -/
theorem thrice_refused :
    let client := Address.short 16843009
    let requests := thrice client 1
    Service.ofConfig doubleConfig false true = .ok doubleService ∧
      doubleConfig.rateLimitEnabled = true ∧
      doubleConfig.rateLimitPerSecond.toNat ≤ doubleConfig.rateLimitBurst.toNat ∧
      (callTimes client requests).Pairwise (· ≤ ·) ∧
      KeepsRate doubleConfig.rateLimitPerSecond.toNat (callTimes client requests) ∧
      ¬ SparesClient client (doubleService.session (MemoryStore.respond 0) requests
        ⟨[], ∅, .of ∅ false⟩) := by
  intro client requests
  have times : callTimes client requests = [0, 0, 1000000000] := callTimes_thrice client 1
  refine ⟨doubleService_built, rfl, by decide, ?_, ?_, ?_⟩
  · rw [times]
    decide
  · intro start
    have rate : doubleConfig.rateLimitPerSecond.toNat = 2 := rfl
    have length : second = 1000000000 := rfl
    rw [times, rate]
    simp only [List.countP_cons, List.countP_nil, decide_eq_true_eq]
    split <;> split <;> omega
  · have limited : doubleService.rateLimit = some doubleLimit := rfl
    rw [session_sparesClient_iff limited, times]
    simp [RateLimit.spares_cons, doubleLimit, second]

/-- Two seconds later, it is let through. -/
theorem rates_admitted_thrice :
    let client := Address.short 16843009
    let requests := thrice client 2
    Service.ofConfig doubleConfig false true = .ok doubleService ∧
      doubleConfig.rateLimitEnabled = true ∧
      ([] : RateLimit.Debts).lookup client = none ∧
      (callTimes client requests).Pairwise (· ≤ ·) ∧
      SparesClient client (doubleService.session (MemoryStore.respond 0) requests
        ⟨[], ∅, .of ∅ false⟩) := by
  intro client requests
  have times : callTimes client requests = [0, 0, 2000000000] := callTimes_thrice client 2
  have ordered : (callTimes client requests).Pairwise (· ≤ ·) := by
    rw [times]
    decide
  obtain ⟨windows, -⟩ := rates_admitted doubleService_built rfl (MemoryStore.respond 0)
    ⟨[], ∅, .of ∅ false⟩ client rfl
  refine ⟨doubleService_built, rfl, rfl, ordered, (windows requests ordered).mpr ?_⟩
  intro start length
  have rate : doubleConfig.rateLimitPerSecond.toNat = 2 := rfl
  have burst : doubleConfig.rateLimitBurst.toNat = 2 := rfl
  rw [times, rate, burst]
  simp only [callsWithin, List.countP_cons, List.countP_nil, decide_eq_true_eq, second]
  split <;> split <;> omega

end SceneCatalog.Api
