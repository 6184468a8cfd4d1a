import Rebill.Charge.State
import Rebill.Time.Span

/-!
# Errors

Two layers of errors. A `Fault` is what storage and configuration report, by kind; faults of
the database, the cache, the configuration and an unavailable service are faults of the
infrastructure. A `BillingError` is what an operation of the billing core reports: a schedule
that cannot be computed, a move the state table refuses, a reactivation that is not available, a
lock that could not be taken in time, something not found, a gateway problem, or a fault of
storage. Only a fault of the infrastructure is systemic: it makes a whole batch pointless.

Each error has one text, given by `Fault.text` and `BillingError.text`.
-/

namespace Rebill

/-- A fault of storage or configuration, by kind, with its detail. -/
inductive Fault where
  | badRequest (detail : String)
  | notFound (detail : String)
  | conflict (detail : String)
  | internal (detail : String)
  | unavailable
  | database (detail : String)
  | cache (detail : String)
  | serialization (detail : String)
  | config (detail : String)
deriving DecidableEq, Repr, Inhabited

namespace Fault

def text : Fault → String
  | .badRequest d => "Bad request: " ++ d
  | .notFound d => "Not found: " ++ d
  | .conflict d => "Conflict: " ++ d
  | .internal d => "Internal server error: " ++ d
  | .unavailable => "Service Unavailable"
  | .database d => "Database error: " ++ d
  | .cache d => "Redis error: " ++ d
  | .serialization d => "Serialization error: " ++ d
  | .config d => "Configuration error: " ++ d

/-- Faults of the infrastructure: database, cache, configuration, an unavailable service. -/
def isInfrastructure : Fault → Bool
  | .database _ | .cache _ | .unavailable | .config _ => true
  | _ => false

end Fault

/-- An error of an operation of the billing core. -/
inductive BillingError where
  | invalidSchedule (detail : String)
  | illegalTransition (source target : ChargeState)
  | reactivationUnavailable (detail : String)
  | lockTimeout (key : String) (waitedMs : Nat)
  | notFound (what : String)
  | gateway (detail : String)
  | storage (fault : Fault)
deriving DecidableEq, Repr, Inhabited

namespace BillingError

def text : BillingError → String
  | .invalidSchedule d => "Invalid schedule: " ++ d
  | .illegalTransition s t => "Illegal transition from " ++ s.name ++ " to " ++ t.name
  | .reactivationUnavailable d => "Reactivation unavailable: " ++ d
  | .lockTimeout key ms => "Timed out after " ++ waitText ms ++ " waiting for lock " ++ key
  | .notFound w => "Not found: " ++ w
  | .gateway d => "Gateway error: " ++ d
  | .storage f => f.text

def isSystemic : BillingError → Bool
  | .storage f => f.isInfrastructure
  | _ => false

end BillingError

end Rebill
