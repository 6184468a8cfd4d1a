import Rebill.Service.Ledger

/-!
# Charge runs

A run charges the due attempts one by one, oldest first. Each attempt is claimed first, so that
only the run that owns it charges it. Before the gateway is called, the fast-charge guard stops
an attempt whose method was charged for an attempt due less than the threshold before it; an
attempt without a payment gets a new `form` payment, copied from its parent; and an attempt whose
payment is already paid is marked charged without a call. A failure up to here gives the claim
back. After the call, the answer decides: settled charges the payment and the attempt, pending
waits for a callback, a retryable failure fails the payment and re-arms the attempt, a terminal
one stops it, and an unclassified one leaves it active with the code as status, for a person to
look at. Each answer is written to the audit log.

`resolvePending` applies the callback of a pending attempt the same way.
-/

namespace Rebill.Run

open Svc

/-- How an attempt ended in a run. -/
inductive Outcome where
  | charged
  | pending
  | failed
  | stopped
  | fastCharge
  | unhandled
  | skipped
deriving DecidableEq, Repr, Inhabited

def Outcome.name : Outcome → String
  | .charged => "charged"
  | .pending => "pending"
  | .failed => "failed"
  | .stopped => "stopped"
  | .fastCharge => "fast_charge"
  | .unhandled => "unhandled"
  | .skipped => "skipped"

/-- One line of the report of a run: an attempt and its outcome or the text of its error. -/
structure Report where
  charge : Ident
  outcome : Except String Outcome
deriving Repr

def Report.text (r : Report) : String :=
  match r.outcome with
  | .ok o => r.charge.text ++ " " ++ o.name
  | .error m => r.charge.text ++ " error: " ++ m

/-- The counts of a run and its report. -/
structure Summary where
  processed : Nat := 0
  charged : Nat := 0
  pending : Nat := 0
  failed : Nat := 0
  stopped : Nat := 0
  fastChargeStopped : Nat := 0
  unhandled : Nat := 0
  skipped : Nat := 0
  errors : Nat := 0
  attempts : List Report := []
deriving Repr, Inhabited

def Summary.record (s : Summary) (id : Ident) (r : Except BillingError Outcome) : Summary :=
  let s := { s with processed := s.processed + 1,
                    attempts := s.attempts ++ [({ charge := id, outcome := r.mapError BillingError.text } : Report)] }
  match r with
  | .ok .charged => { s with charged := s.charged + 1 }
  | .ok .pending => { s with pending := s.pending + 1 }
  | .ok .failed => { s with failed := s.failed + 1 }
  | .ok .stopped => { s with stopped := s.stopped + 1 }
  | .ok .fastCharge => { s with fastChargeStopped := s.fastChargeStopped + 1 }
  | .ok .unhandled => { s with unhandled := s.unhandled + 1 }
  | .ok .skipped => { s with skipped := s.skipped + 1 }
  | .error _ => { s with errors := s.errors + 1 }

def Summary.add (a b : Summary) : Summary :=
  { processed := a.processed + b.processed, charged := a.charged + b.charged,
    pending := a.pending + b.pending, failed := a.failed + b.failed,
    stopped := a.stopped + b.stopped,
    fastChargeStopped := a.fastChargeStopped + b.fastChargeStopped,
    unhandled := a.unhandled + b.unhandled, skipped := a.skipped + b.skipped,
    errors := a.errors + b.errors, attempts := a.attempts ++ b.attempts }

def fastChargeCode : String := "FAST_CHARGE"

/-- The status code of an attempt whose payment was already paid. -/
def alreadyPaidCode : String := "ALREADY_PAID"

/-- The charged attempt on the same method that is due too close before this one, if any. -/
def fastChargeConflict (c : Charge) : Svc (Option Charge) := do
  let θ := (← policy).fastChargeThreshold
  if θ.nanos ≤ 0 then return none
  match ← Attempts.previousCharged c with
  | none => pure none
  | some prev =>
    let tooClose := prev.chargeAt == c.chargeAt || decide ((c.chargeAt.since prev.chargeAt) < θ)
    pure (if tooClose then some prev else none)

/-- The parent payment of an attempt, read from the store. -/
def parentPayment (c : Charge) : Svc Payment := do
  let some parent := (← store).payment? c.parent
    | throw (.notFound ("Parent payment " ++ c.parent.text))
  pure parent

/-- The `form` payment of an attempt's cycle, copied from its parent. -/
def draftFor (c : Charge) (parent : Payment) : PaymentDraft :=
  { user := parent.user, gateway := parent.gateway,
    amount := c.customAmount.getD parent.amount, subscription := parent.subscription,
    catalogItem := c.renewalItem.orElse (fun _ => parent.catalogItem),
    address := parent.address, isRecurrent := true, parent := some parent.id }

/-- Creates the payment of an attempt's cycle in the store. -/
def createFor (c : Charge) (parent : Payment) : Svc Payment := do
  let (p, s) := (← store).createPayment (draftFor c parent) (← now)
  setStore s
  pure p

/-- Opens a `form` payment for the attempt, copied from its parent, and links it; the payment
the attempt ends up linked to. -/
def openPayment (c : Charge) : Svc Ident := do
  let parent ← parentPayment c
  let p ← createFor c parent
  Attempts.linkPayment c.id p.id

def appendLog (payment charge : Ident) (r : GatewayResponse) : Svc Unit := do
  let t ← now
  setStore ((← store).appendAudit
    { payment, charge := some charge, success := r.successful, code := r.code,
      message := r.message, data := r.data, created := t })

/-- Settles a payment through the ledger, with the instant the gateway reports. -/
def settle (p : Payment) (g : Gateway) (r : GatewayResponse) : Svc Bool :=
  Ledger.updateStatus p.id { status := g.paidStatus, notify := true, paidAt := g.chargedAt r }

/-- Fails a payment through the ledger, with the code and message as error. -/
def fail (p : Payment) (r : GatewayResponse) (notify : Bool) : Svc Bool :=
  Ledger.updateStatus p.id
    { status := .fail, notify, errorMessage := some (r.code ++ ": " ++ r.message) }

/-- What is left after the preparation of an attempt. -/
inductive Prepared where
  /-- The attempt was settled without a call. -/
  | done (o : Outcome)
  /-- The payment is to be charged through the gateway. -/
  | call (p : Payment) (g : Gateway)

/-- Stops an attempt that the fast-charge guard caught. -/
def stopFast (c : Charge) : Svc Prepared := do
  let _ ← Attempts.transition c.id .systemStop .system
    { status := some fastChargeCode, note := some "Fast charge" }
  return .done .fastCharge

/-- The payment the attempt is charged on: the one it is linked to, or one opened for it. -/
def paymentFor (c : Charge) : Svc Ident :=
  match c.payment with
  | some pid => pure pid
  | none => openPayment c

/-- The payment an attempt is to be charged on, read again from the store: a callback or another
run may have settled it. -/
def chargedPayment (pid : Ident) : Svc Payment := do
  let some p := (← store).payment? pid
    | throw (.notFound ("Payment " ++ pid.text))
  pure p

/-- The move of an attempt whose payment was already paid. -/
def alreadyPaidUpdate : ChargeUpdate := { status := some alreadyPaidCode }

/-- The answer written to the audit log for an attempt whose payment was already paid. -/
def alreadyPaidResponse : GatewayResponse :=
  { code := alreadyPaidCode, message := "Payment already paid", successful := true }

/-- Marks the attempt charged without touching its settled payment, and logs it. -/
def completeAlreadyPaid (c : Charge) (p : Payment) : Svc Unit := do
  let _ ← Attempts.transition c.id .charged .system alreadyPaidUpdate
  appendLog p.id c.id alreadyPaidResponse

/-- Marks the attempt charged when its payment is already paid; otherwise hands over the payment
and its gateway for the call. -/
def completeOrCall (c : Charge) (pid : Ident) : Svc Prepared := do
  let p ← chargedPayment pid
  if p.status.isPaidLike then
    completeAlreadyPaid c p
    return .done .charged
  return .call p (← requireGateway p.gateway)

/-- Everything before the gateway call; nothing here moves money. -/
def prepare (c : Charge) : Svc Prepared := do
  if (← fastChargeConflict c).isSome then stopFast c
  else completeOrCall c (← paymentFor c)

/-- Asks the gateway to charge a payment with the attempt's token, keeping the gateway's new
script, the call it remembers, and the charge with its reply. -/
def callGateway (g : Gateway) (p : Payment) (c : Charge) : Svc ChargeReply := do
  let (reply, g', call) := g.charge p c.token
  modify fun e => { e with gateways := e.gateways.register g',
                           journal := { e.journal with calls := e.journal.calls ++ call.toList,
                                                       charges := e.journal.charges ++ [⟨p.id, c.id, reply⟩] } }
  pure reply

def applyReply (c : Charge) (p : Payment) (g : Gateway) :
    ChargeReply → Svc (Outcome × GatewayResponse)
  | .settled r => do
    let _ ← settle p g r
    let _ ← Attempts.transition c.id .charged .system { status := some r.code }
    pure (.charged, r)
  | .pending r => do
    let _ ← Attempts.transition c.id .pending .system { status := some r.code }
    pure (.pending, r)
  | .failed ⟨.retryable, r⟩ => do
    let _ ← fail p r false
    let _ ← Attempts.transition c.id .chargeFailed .system { status := some r.code }
    let _ ← Attempts.rearmFailed c.id
    pure (.failed, r)
  | .failed ⟨.terminal, r⟩ => do
    let _ ← fail p r true
    let _ ← Attempts.transition c.id .systemStop .system
      { status := some r.code, note := some ("Terminal failure: " ++ r.message) }
    pure (.stopped, r)
  | .failed ⟨.hard, r⟩ => do
    count (.error "gateway_unhandled" "charge")
    let _ ← Attempts.transition c.id .active .system
      { status := some r.code, note := some ("Unhandled charge result " ++ r.code ++ ": " ++ r.message) }
    pure (.unhandled, r)

def process (due : Charge) : Svc Outcome := do
  let some c ← Attempts.claim due.id
    | count (.outcome Outcome.skipped.name); return .skipped
  let prepared ← tryCatch (prepare c) fun err => do
    let _ ← tryCatch (Attempts.releaseClaim c.id) (fun _ => pure c)
    throw err
  match prepared with
  | .done o =>
    count (.outcome o.name)
    pure o
  | .call p g =>
    let reply ← callGateway g p c
    let (o, r) ← applyReply c p g reply
    appendLog p.id c.id r
    count (.outcome o.name)
    pure o

/-- Processes the attempts in order, counting errors of single attempts. A systemic error (the
storage is unreachable) ends the run with that error. -/
def processAll : List Charge → Summary → Svc Summary
  | [], s => pure s
  | c :: rest, s => do
    let r ← tryCatch (.ok <$> process c) (fun err => pure (.error err))
    match r with
    | .error e =>
      if e.isSystemic then
        count (.error "systemic" "charge")
        throw e
      count (.error "attempt" "charge")
    | .ok _ => pure ()
    processAll rest (s.record c.id r)

/-- Charges every due attempt, or those among `ids`, oldest first. -/
def run (ids : Option (List Ident)) : Svc Summary := do
  processAll (← Attempts.chargeable ids) {}

/-- Applies the asynchronous result of a pending attempt. -/
def resolvePending (id : Ident) (succeeded : Bool) (r : GatewayResponse) : Svc Charge := do
  let c ← Attempts.get id
  let target : ChargeState := if succeeded then .charged else .chargeFailed
  if c.state != .pending then throw (.illegalTransition c.state target)
  let some pid := c.payment
    | throw (.notFound ("Payment for pending attempt " ++ id.text))
  let some p := (← store).payment? pid
    | throw (.notFound ("Payment " ++ pid.text))
  let g ← requireGateway p.gateway
  let _ ← if succeeded then settle p g r else fail p r true
  let mut resolved ← Attempts.transition id target .system { status := some r.code }
  if !succeeded then resolved ← Attempts.rearmFailed id
  appendLog pid id r
  count (.outcome (if succeeded then "charged" else "failed"))
  pure resolved

end Rebill.Run
