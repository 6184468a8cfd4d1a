import Rebill.Payment.Basic
import Rebill.Time.Overflow

/-!
# When the next charge is due

`nextChargeAt` computes the instant of the next charge of a paid payment. The payment is paid
through the end of its subscription, or, without a subscription row, through its paid instant
plus the catalog length in days. A lead time in hours (the catalog item's own, else the global
one; zero means none) moves the charge that much earlier, a negative one later; it needs the
payment to belong to a subscription. The result must lie in the future, not before the start of
the subscription, and not before the payment was paid. Every other case is a `ScheduleError`.
-/

namespace Rebill

/-- A subscription row as seen when scheduling. -/
structure Subscription where
  id : Ident
  startAt : Instant
  endAt : Instant
deriving Repr, Inhabited

/-- The billing terms of a catalog item. -/
structure Terms where
  lengthDays : Int := 0
  chargeBeforeHours : Option Int := none
deriving Repr, Inhabited

/-- Why no next charge can be scheduled. -/
inductive ScheduleError where
  | noPaidAt (payment : Ident)
  | badLength (days : Int) (payment : Ident)
  | leadWithoutSubscription (payment : Ident)
  | notInFuture (chargeAt : Instant)
  | beforeStart (chargeAt start : Instant)
  | beforePaidAt (chargeAt paidAt : Instant)
deriving DecidableEq, Repr

namespace ScheduleError

def message : ScheduleError → String
  | .noPaidAt p => "payment " ++ p.text ++ " has no paid_at and no subscription row"
  | .badLength n p => "catalog length of " ++ toString n ++ " days for payment " ++ p.text
  | .leadWithoutSubscription p =>
    "lead time configured but payment " ++ p.text ++ " has no subscription"
  | .notInFuture t => "charge_at " ++ t.display ++ " is not in the future"
  | .beforeStart t s => "charge_at " ++ t.display ++ " precedes subscription start " ++ s.display
  | .beforePaidAt t p => "charge_at " ++ t.display ++ " precedes paid_at " ++ p.display

end ScheduleError

/-- The lead time in hours: the item's own, else the global one; zero means none. -/
def Terms.lead (terms : Terms) (globalLead : Option Int) : Option Int :=
  (terms.chargeBeforeHours.orElse (fun _ => globalLead)).filter (· != 0)

def paidThrough (p : Payment) (sub : Option Subscription) (terms : Terms) :
    ExceptT ScheduleError (Except Overflow) Instant :=
  match sub with
  | some s => pure s.endAt
  | none =>
    match p.paidAt with
    | none => throw (.noPaidAt p.id)
    | some paid =>
      if terms.lengthDays ≤ 0 then throw (.badLength terms.lengthDays p.id)
      else ExceptT.lift (spanOfDays terms.lengthDays >>= shiftBy paid)

/-- The instant of the next charge of a payment, as described above. -/
def nextChargeAt (p : Payment) (sub : Option Subscription) (terms : Terms)
    (globalLead : Option Int) (now : Instant) : ExceptT ScheduleError (Except Overflow) Instant := do
  let through ← paidThrough p sub terms
  let due ← match terms.lead globalLead with
    | none => pure through
    | some hours =>
      if p.subscription.isNone then throw (.leadWithoutSubscription p.id)
      else ExceptT.lift (spanOfHours hours >>= shiftBack through)
  if due ≤ now then throw (.notInFuture due)
  if let some s := sub then
    if due < s.startAt then throw (.beforeStart due s.startAt)
  if let some paid := p.paidAt then
    if due < paid then throw (.beforePaidAt due paid)
  pure due

end Rebill
