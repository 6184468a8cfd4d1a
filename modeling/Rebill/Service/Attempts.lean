import Rebill.Service.Basic
import Rebill.Schedule

/-!
# Attempts: creation, moves and queries

The operations on charge attempts. At most one attempt is made per parent payment: creating an
attempt under the parent's lock returns the latest attempt of the parent when there is one. Every
change of an attempt is made under the attempt's own lock by `update`, which reads the attempt,
changes it, writes it, and after the lock announces a change of state.

A run owns an attempt by `claim`, which marks it `IN_FLIGHT`; only `releaseClaim` and
`rearmFailed` clear that mark again. A failed attempt goes back in the queue by `rearmFailed`,
which spends one retry, or stays failed when none is left. Stopping is refused on a gateway that
forbids it and on a prepaid parent; a user stop may be taken back while the attempt is still in
the future, and an exhausted system stop may be replaced by a fresh attempt within the
reactivation window.
-/

namespace Rebill.Attempts

open Svc

def chargeKey (id : Ident) : String := "recurrent_charge:" ++ id.text

def parentKey (parent : Ident) : String := "recurrent_charge_parent:" ++ parent.text

def get (id : Ident) : Svc Charge := do
  match (← store).charge? id with
  | some c => pure c
  | none => throw (.notFound ("Recurrent charge " ++ id.text))

def payment (id : Ident) : Svc Payment := do
  match (← store).payment? id with
  | some p => pure p
  | none => throw (.notFound ("Payment " ++ id.text))

/-- The stored method of a user at a gateway with a token; the same one on every call. -/
def registerMethod (user : Ident) (gateway token : String) : Svc Method := do
  let (m, s) := (← store).findOrCreateMethod user gateway token (← now)
  setStore s
  pure m

def updateMethodExpiry (method : Ident) (d : Date) : Svc Unit := do
  match (← store).setMethodExpiry method d with
  | .ok s => setStore s
  | .error f => throw (.storage f)

/-- The latest attempt of the draft's parent, or a new attempt made from the draft. -/
def insertUnlessExists (d : ChargeDraft) : Svc Charge := do
  match (← store).latestForParent d.parent with
  | some existing => pure existing
  | none => stored ((← store).createCharge d (← now))

/-- Makes an attempt from a draft unless its parent already has one, under the parent's lock. -/
def createAttemptFrom (d : ChargeDraft) : Svc Charge :=
  withLock (parentKey d.parent) (insertUnlessExists d)

/-- Makes an attempt for a parent payment, with the default retries when none are given. -/
def createAttempt (method parent : Ident) (chargeAt : Instant) (customAmount : Option Decimal)
    (retries : Option Int) : Svc Charge := do
  let p ← policy
  createAttemptFrom { method, parent, chargeAt, retries := retries.getD p.defaultRetries,
                      customAmount, renewalItem := none, note := none }

/-- The text of a schedule refused for an attempt that is not charged. -/
def notChargedText (c : Charge) : String :=
  "attempt " ++ c.id.text ++ " is " ++ c.state.name ++ ", not charged"

/-- Chains the attempt of the next billing cycle after a charged attempt: the payment it
produced becomes the parent. -/
def scheduleNext (charged : Charge) (sub : Option Subscription) (terms : Terms) : Svc Charge := do
  if charged.state != .charged then throw (.invalidSchedule (notChargedText charged))
  let some pid := charged.payment
    | throw (.invalidSchedule ("attempt " ++ charged.id.text ++ " has no resulting payment"))
  let p ← payment pid
  let pol ← policy
  let due ← match (nextChargeAt p sub terms pol.chargeBeforeHours (← now)).run with
    | .ok (.ok t) => pure t
    | .ok (.error e) => throw (.invalidSchedule e.message)
    | .error o => stop o
  createAttemptFrom { method := charged.method, parent := p.id, chargeAt := due,
                      retries := pol.defaultRetries, customAmount := charged.customAmount,
                      renewalItem := charged.renewalItem, note := none }

/-- Reads, changes and writes an attempt under its lock; the old state and the written attempt. -/
def updateLocked (id : Ident) (change : Charge → Svc Charge) : Svc (ChargeState × Charge) := do
  let c ← get id
  let c' ← change c
  let saved ← stored ((← store).saveCharge c' (← now))
  pure (c.state, saved)

/-- Changes an attempt under its lock, then announces a change of state. -/
def update (id : Ident) (change : Charge → Svc Charge) : Svc Charge := do
  let (old, c) ← withLock (chargeKey id) (updateLocked id change)
  if old != c.state then emit (.chargeStateChanged id old c.state) "transition"
  pure c

/-- Moves an attempt to `t` on behalf of `actor`, writing the update, when the table allows. -/
def transition (id : Ident) (t : ChargeState) (actor : Actor) (u : ChargeUpdate) : Svc Charge :=
  update id fun c =>
    if c.state.allows t actor then pure (c.moveTo t u)
    else throw (.illegalTransition c.state t)

/-- Takes a due attempt for the current run, marking it in flight; `none` when it is not active,
carries a status or is not yet due. -/
def claim (id : Ident) : Svc (Option Charge) :=
  withLock (chargeKey id) do
    let c ← get id
    let dueBefore ← time (shiftBy (← now) (← policy).lookahead)
    if c.state != .active || c.status.isSome || decide (c.chargeAt > dueBefore) then pure none
    else some <$> stored ((← store).saveCharge { c with status := some inFlight } (← now))

/-- Gives a claimed attempt back to the queue: clears the mark of an active attempt in flight. -/
def releaseClaim (id : Ident) : Svc Charge :=
  update id fun c =>
    pure (if c.state == .active && c.status == some inFlight then { c with status := none } else c)

/-- Links a payment unless the attempt has one; the payment the attempt ends up linked to. -/
def linkPayment (id payment : Ident) : Svc Ident := do
  let c ← update id fun c => pure (if c.payment.isNone then { c with payment := some payment } else c)
  pure (c.payment.getD payment)

/-- Puts a failed attempt back in the queue when it has retries left, spending one and moving
it out by the retry delay; otherwise notes that the retries are exhausted. -/
def rearmFailed (id : Ident) : Svc Charge := do
  let delay := (← policy).retryDelay
  update id fun c => do
    if c.state != .chargeFailed then throw (.illegalTransition c.state .active)
    if c.retries ≤ 0 then pure (c.pushNote "Retries exhausted")
    else
      let due ← time (shiftBy (← now) delay)
      let c := { c with retries := c.retries - 1, state := .active, chargeAt := due, status := none }
      pure (c.pushNote ("Retry scheduled, " ++ toString c.retries ++ " left"))

/-- An attempt may be stopped unless its parent's gateway forbids it or the parent is prepaid. -/
def canBeStopped (c : Charge) : Svc Bool := do
  let parent ← payment c.parent
  match (← gateways).get? parent.gateway with
  | some g => if g.unstoppable then return false
  | none => pure ()
  pure (parent.status != .prepaid)

/-- A user may stop an attempt that may be stopped, unless the gateway forbids it to users. -/
def canBeStoppedByUser (c : Charge) : Svc Bool := do
  if !(← canBeStopped c) then return false
  let parent ← payment c.parent
  pure !(((← gateways).get? parent.gateway).any (·.userUnstoppable))

def stopByUser (id : Ident) : Svc Charge := do
  let c ← get id
  if !(← canBeStoppedByUser c) then throw (.illegalTransition c.state .userStop)
  transition id .userStop .user { note := some "Stopped by user" }

/-- Stops an attempt on behalf of an administrator, noting the reason. -/
def stopByAdmin (id : Ident) (reason : String) : Svc Charge := do
  let c ← get id
  if !(← canBeStopped c) then throw (.illegalTransition c.state .adminStop)
  transition id .adminStop .admin { note := some ("Stopped by admin: " ++ reason) }

/-- An attempt is effectively stopped in a stop state, and when it failed and the latest later
attempt on the same token is stopped. -/
def isEffectivelyStopped (c : Charge) : Svc Bool := do
  if c.state.isStop then return true
  if c.state != .chargeFailed then return false
  pure (((← store).latestForTokenAfter c.token c.chargeAt c.id).any (·.state.isStop))

def reactivateLocked (id : Ident) : Svc Charge := do
  let t ← now
  let pol ← policy
  let stopped ← get id
  let unavailable := fun (why : String) =>
    (throw (.reactivationUnavailable ("attempt " ++ id.text ++ " " ++ why)) : Svc Unit)
  if stopped.state != .systemStop then unavailable ("is " ++ stopped.state.name ++ ", not system_stop")
  if stopped.retries != 0 then unavailable ("still has " ++ toString stopped.retries ++ " retries")
  let windowStart ← time (shiftBack t pol.reactivationWindow)
  if stopped.chargeAt < windowStart then
    unavailable ("was due at " ++ stopped.chargeAt.display ++ ", outside the reactivation window")
  if let some latest := (← store).latestForParent stopped.parent then
    if latest.id != id then unavailable ("was superseded by " ++ latest.id.text)
  let due ← time (shiftBy t pol.reactivationDelay)
  let fresh ← stored ((← store).createCharge
    { method := stopped.method, parent := stopped.parent, chargeAt := due,
      retries := pol.defaultRetries, customAmount := stopped.customAmount,
      renewalItem := stopped.renewalItem, note := some ("Reactivated from " ++ id.text) } t)
  let _ ← stored ((← store).saveCharge (stopped.pushNote ("Reactivated as " ++ fresh.id.text)) t)
  pure fresh

/-- Replaces an exhausted, recently system-stopped attempt, the latest of its parent, by a fresh
attempt due after the reactivation delay. -/
def reactivateAfterSystemStop (id : Ident) : Svc Charge := do
  let c ← get id
  if !(← canBeStopped c) then
    throw (.reactivationUnavailable ("attempt " ++ id.text ++ " cannot be stopped"))
  withLock (parentKey c.parent) (reactivateLocked id)

/-- Takes back a user stop while the attempt is still due in the future. -/
def reactivateByUser (id : Ident) : Svc Charge := do
  let c ← get id
  if !(← canBeStoppedByUser c) then
    throw (.reactivationUnavailable ("attempt " ++ id.text ++ " is not user-controllable"))
  update id fun c => do
    if c.state != .userStop then
      throw (.reactivationUnavailable
        ("attempt " ++ c.id.text ++ " is " ++ c.state.name ++ ", not user_stop"))
    if c.chargeAt ≤ (← now) then
      throw (.reactivationUnavailable ("attempt " ++ c.id.text ++ " was due at " ++ c.chargeAt.display))
    pure ({ c with state := .active }.pushNote "Reactivated by user")

/-- The due attempts, among `ids` when given, in the order the store hands them out. -/
def chargeable (ids : Option (List Ident)) : Svc (List Charge) := do
  let dueBefore ← time (shiftBy (← now) (← policy).lookahead)
  pure ((← store).findChargeable (← shuffle) dueBefore ids)

/-- The charged attempt on the same stored method that was due last. -/
def previousCharged (c : Charge) : Svc (Option Charge) := do
  pure ((← store).lastChargedForMethod c.method c.id)

end Rebill.Attempts
