import Rebill.Store.Basic
import Rebill.Gateway.Basic
import Rebill.Event
import Rebill.Time.Overflow

/-!
# The billing engine

An `Engine` is everything the billing core acts on: the clock, the scheduling `Policy`, the
store, the held locks, the gateways, the outlets of events and messages, what the recorder kept,
the `Journal` of what the current step announced, charged and counted, and the order in which
the store hands out due attempts, which the store draws at random and the engine leaves open.

Operations run in `Svc`: they may fail with a `BillingError`, which keeps every change made
before it, or stop on an `Overflow` of time arithmetic, which ends everything.

Locks are named by keys. `withLock` takes a key, runs its body and gives the key back whatever
the body returns; a key that is already held is not waited for, since nothing else runs at the
same time: it fails at once with `lockTimeout` after the configured wait.
-/

namespace Rebill

/-- The knobs of scheduling and locking. -/
structure Policy where
  chargeBeforeHours : Option Int := none
  fastChargeThreshold : Span := ⟨86400 * Span.nanosPerSecond⟩
  defaultRetries : Int := 3
  lookahead : Span := ⟨900 * Span.nanosPerSecond⟩
  reactivationWindow : Span := ⟨1209600 * Span.nanosPerSecond⟩
  reactivationDelay : Span := ⟨86400 * Span.nanosPerSecond⟩
  retryDelay : Span := ⟨86400 * Span.nanosPerSecond⟩
  lockTimeoutMs : Nat := 10000
deriving Repr, Inhabited

/-- What the recorder kept. -/
structure Recorded where
  events : List BillingEvent := []
  messages : List StatusMessage := []
deriving Repr, Inhabited

/-- A charge the orchestrator asked a gateway for: the payment charged, the attempt it was
charged for and the reply. -/
structure GatewayCharge where
  payment : Ident
  attempt : Ident
  reply : ChargeReply
deriving Repr, Inhabited

/-- What one step announced, charged and counted: besides the calls a scripted gateway
remembers, every charge the orchestrator asked any gateway for. -/
structure Journal where
  events : List BillingEvent := []
  messages : List StatusMessage := []
  calls : List GatewayCall := []
  charges : List GatewayCharge := []
  counters : List (Counter × Nat) := []
deriving Repr, Inhabited

def bump (c : Counter) : List (Counter × Nat) → List (Counter × Nat)
  | [] => [(c, 1)]
  | (d, n) :: rest => if d = c then (d, n + 1) :: rest else (d, n) :: bump c rest

/-- The state the billing core acts on. -/
structure Engine where
  now : Instant
  policy : Policy := {}
  store : Store := {}
  held : List String := []
  gateways : GatewayRegistry := {}
  outlets : Outlets := {}
  recorded : Recorded := {}
  journal : Journal := {}
  /-- How the store orders the due attempts it hands out. -/
  shuffle : Shuffle := .keep
deriving Inhabited

/-- An operation of the billing core. -/
abbrev Svc := ExceptT BillingError (StateT Engine (Except Overflow))

namespace Svc

def stop {α : Type} (o : Overflow) : Svc α := ExceptT.lift (StateT.lift (.error o))

def time {α : Type} (r : Except Overflow α) : Svc α :=
  match r with
  | .ok a => pure a
  | .error o => stop o

def now : Svc Instant := do return (← get).now

def policy : Svc Policy := do return (← get).policy

def gateways : Svc GatewayRegistry := do return (← get).gateways

def store : Svc Store := do return (← get).store

/-- The order in which the store hands out due attempts. -/
def shuffle : Svc Shuffle := do return (← get).shuffle

def setStore (s : Store) : Svc Unit := modify fun e => { e with store := s }

def stored {α : Type} (r : Except Fault (α × Store)) : Svc α :=
  match r with
  | .ok (a, s) => do setStore s; pure a
  | .error f => throw (.storage f)

def count (c : Counter) : Svc Unit :=
  modify fun e => { e with journal := { e.journal with counters := bump c e.journal.counters } }

def acquire (key : String) : Svc Unit := do
  let e ← get
  if e.held.contains key then throw (.lockTimeout key e.policy.lockTimeoutMs)
  set { e with held := key :: e.held }

def release (key : String) : Svc Unit :=
  modify fun e => { e with held := e.held.erase key }

/-- Runs the body holding the lock, and gives it back whatever the body returns. -/
def withLock {α : Type} (key : String) (body : Svc α) : Svc α := do
  acquire key
  let r ← tryCatch body (fun err => do release key; throw err)
  release key
  pure r

/-- Sends an event to the sink; a refusal is counted under the operation. -/
def emit (ev : BillingEvent) (operation : String) : Svc Unit := do
  let e ← get
  match e.outlets.sink with
  | .recording =>
    if e.outlets.eventsFail then count (.error "event" operation)
    else set { e with recorded := { e.recorded with events := e.recorded.events ++ [ev] },
                      journal := { e.journal with events := e.journal.events ++ [ev] } }
  | .broadcast => set { e with journal := { e.journal with events := e.journal.events ++ [ev] } }
  | .tracing | .unheard => pure ()

/-- Publishes a message on the queue; a refusal is counted under the operation. -/
def publish (m : StatusMessage) (operation : String) : Svc Unit := do
  let e ← get
  match e.outlets.sink with
  | .recording =>
    if e.outlets.queueFails then count (.error "queue" operation)
    else set { e with recorded := { e.recorded with messages := e.recorded.messages ++ [m] },
                      journal := { e.journal with messages := e.journal.messages ++ [m] } }
  | _ => pure ()

/-- The gateway with an id, or the error for an unknown one. -/
def requireGateway (id : String) : Svc Gateway := do
  match (← get).gateways.get? id with
  | some g => pure g
  | none => throw (.gateway (GatewayRegistry.unknown id))

end Svc

end Rebill
