import Rebill.Ident
import Rebill.Charge.State
import Rebill.Payment.Status

/-!
# Events, messages and counters

Every effective change of a payment's status is announced twice: as a `BillingEvent` to the
in-process subscribers and as a `StatusMessage` to the workers of other processes. Every effective
change of an attempt's state is announced as a `BillingEvent`. `Counter` names the counters the
core raises: outcomes of attempts, results of status requests, and errors by kind and operation.

Where events go is an `Outlets` setting: a recorder keeps events and messages, the tracing sink
writes them to the log, a broadcast channel hands events to its subscriber. A failing outlet
refuses, and the refusal is counted, not passed on.
-/

namespace Rebill

/-- An announced change. -/
inductive BillingEvent where
  | paymentStatusChanged (payment : Ident) (old new : PaymentStatus) (notify : Bool)
  | chargeStateChanged (charge : Ident) (old new : ChargeState)
deriving DecidableEq, Repr, Inhabited

/-- The message that tells other workers a payment changed. -/
structure StatusMessage where
  payment : Ident
  notify : Bool
deriving DecidableEq, Repr, Inhabited

/-- Where events and messages go. -/
inductive SinkKind where
  /-- Kept by a recorder, events and messages alike. -/
  | recording
  /-- Written to the log. -/
  | tracing
  /-- Events to a broadcast channel with one subscriber; messages to the log. -/
  | broadcast
  /-- Events to a broadcast channel nobody listens to; messages to the log. -/
  | unheard
deriving DecidableEq, Repr, Inhabited

/-- The outlets of events and messages, each of which may refuse. -/
structure Outlets where
  sink : SinkKind := .recording
  eventsFail : Bool := false
  queueFails : Bool := false
deriving Repr, Inhabited

/-- A counter of the core. -/
inductive Counter where
  /-- An attempt processed, by outcome. -/
  | outcome (name : String)
  /-- A request for a status change, by result and target status. -/
  | statusTransition (result : String) (target : PaymentStatus)
  /-- An error, by kind and operation. -/
  | error (kind operation : String)
deriving DecidableEq, Repr, Inhabited

/-- The key of a counter: its family and its label values. -/
def Counter.key : Counter → String
  | .outcome n => "outcome:" ++ n
  | .statusTransition r t => "transition:" ++ r ++ ":" ++ t.name
  | .error k o => "error:" ++ k ++ ":" ++ o

end Rebill
