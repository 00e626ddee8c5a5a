import SceneCatalog.Page
import SceneCatalog.Text.Lower
import SceneCatalog.Text.Parts

/-!
The configuration of the service and how it is read from the environment. A variable that is not
set, or does not hold what it should, leaves its setting at the default.
-/
namespace SceneCatalog

open Text

structure Config where
  port : UInt16
  /-- The four numbers of the address that the service listens at. -/
  host : UInt8 × UInt8 × UInt8 × UInt8
  /-- The origins that browsers may call from; every origin if there is no list. -/
  allowedOrigins : Option (List String)
  /-- The greatest size of a request body, in units of 1048576 bytes. -/
  bodyLimitMb : UInt64
  timeoutSeconds : UInt64
  rateLimitEnabled : Bool
  rateLimitPerSecond : UInt64
  rateLimitBurst : UInt32
  /-- The secret that tokens are signed with; without one every token is refused. -/
  jwtSecret : Option String
  databaseUrl : Option String
  databaseMaxConnections : UInt32
  databaseMinConnections : UInt32
  maxPerPage : UInt32
deriving DecidableEq

/-- A number as it stands in a variable: decimal digits behind an optional plus, below `bound`. -/
def unsigned? (bound : Nat) (s : String) : Option Nat :=
  let digits := match s.toList with
    | '+' :: rest => rest
    | cs => cs
  if digits.isEmpty || !digits.all (fun c => '0' ≤ c && c ≤ '9') then none
  else
    let n := digits.foldl (fun n c => 10 * n + (c.toNat - '0'.toNat)) 0
    if n < bound then some n else none

namespace Config

/-- The number of bytes in a unit of the limit on bodies. -/
def mebibyte : Nat := 1048576

def default : Config where
  port := 3000
  host := (127, 0, 0, 1)
  allowedOrigins := none
  bodyLimitMb := 2
  timeoutSeconds := 30
  rateLimitEnabled := false
  rateLimitPerSecond := 10
  rateLimitBurst := 20
  jwtSecret := none
  databaseUrl := none
  databaseMaxConnections := 20
  databaseMinConnections := 2
  maxPerPage := Page.defaultMax

/-- The parts of a list that is written with commas; blank parts do not count. -/
def commaList (s : String) : List String :=
  ((parts ',' s).map trim).filter (· ≠ "")

/-- The configuration that the variables of an environment ask for. Here rate limiting is on unless
it is switched off by name. -/
def ofEnvironment (valueOf : String → Option String) : Config :=
  let number (name : String) (bound : Nat) : Option Nat := valueOf name >>= unsigned? bound
  let text (name : String) : Option String := (valueOf name).filter (· ≠ "")
  { port := ((number "PORT" UInt16.size).map UInt16.ofNat).getD default.port
    host := if valueOf "HOST" = some "0.0.0.0" then (0, 0, 0, 0) else default.host
    allowedOrigins := (valueOf "ALLOWED_ORIGINS").map commaList
    bodyLimitMb := ((number "BODY_LIMIT_MB" UInt64.size).map UInt64.ofNat).getD default.bodyLimitMb
    timeoutSeconds :=
      ((number "REQUEST_TIMEOUT_SECS" UInt64.size).map UInt64.ofNat).getD default.timeoutSeconds
    rateLimitEnabled := (valueOf "RATE_LIMIT_ENABLED").all fun v => lower v ≠ "false"
    rateLimitPerSecond :=
      ((number "RATE_LIMIT_PER_SEC" UInt64.size).map UInt64.ofNat).getD default.rateLimitPerSecond
    rateLimitBurst :=
      ((number "RATE_LIMIT_BURST" UInt32.size).map UInt32.ofNat).getD default.rateLimitBurst
    jwtSecret := text "JWT_SECRET"
    databaseUrl := text "DATABASE_URL"
    databaseMaxConnections :=
      ((number "DATABASE_MAX_CONNECTIONS" UInt32.size).map UInt32.ofNat).getD
        default.databaseMaxConnections
    databaseMinConnections :=
      ((number "DATABASE_MIN_CONNECTIONS" UInt32.size).map UInt32.ofNat).getD
        default.databaseMinConnections
    maxPerPage :=
      (((number "MAX_PER_PAGE" UInt32.size).filter (0 < ·)).map UInt32.ofNat).getD default.maxPerPage }

/-- The address and port, as they are written. -/
def socketAddress (config : Config) : String :=
  let (a, b, c, d) := config.host
  s!"{a}.{b}.{c}.{d}:{config.port}"

end Config

end SceneCatalog
