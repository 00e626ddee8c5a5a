import SceneCatalog.Api.Service
import SceneCatalog.Workers

/-!
Requests that come in one after another. What is around the service is handed on from each request
to the next: what the rate limit remembers, the locks, and the state of the store.
-/
namespace SceneCatalog.Api

variable {σ : Type}

/-- What a service finds when a request comes in. -/
structure Surroundings (σ : Type) where
  debts : RateLimit.Debts
  locks : LockTable
  store : σ

/-- What happens about one request: the calls that the service makes of its store while it handles
the request, the response, and the state of the store before and after. -/
structure Exchange (σ : Type) where
  now : Timestamp
  request : Request
  before : σ
  calls : List StoreCall
  response : Response
  after : σ

namespace Service

/-- Handles one request. -/
def exchange (s : Service) (respond : (call : StoreCall) → σ → call.Reply × σ) (now : Timestamp)
    (request : Request) (around : Surroundings σ) : Exchange σ × Surroundings σ :=
  let (answering, debts) := s.handle now request around.debts
  let ran := answering.run (respondAlone respond) (around.locks, around.store)
  let calls := ran.asked.filterMap Ask.call?
  (⟨now, request, around.store, calls, ran.result, ran.state.2⟩, ⟨debts, ran.state.1, ran.state.2⟩)

/-- Handles requests in the order in which they come in, each at its time. -/
def session (s : Service) (respond : (call : StoreCall) → σ → call.Reply × σ) :
    List (Timestamp × Request) → Surroundings σ → List (Exchange σ)
  | [], _ => []
  | (now, request) :: requests, around =>
    let (exchange, around) := s.exchange respond now request around
    exchange :: s.session respond requests around

end Service

end SceneCatalog.Api
