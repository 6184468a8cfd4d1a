import Rebill.Service.Attempts

/-!
# The payment ledger

`Ledger.updateStatus` is the only writer of a payment's status. Under the payment's lock it
reads the payment and decides: a request for the status the payment already has is a no-op, and
so is a request to fail a paid payment (rejected); otherwise the status is written, the paid
instant is set when a paid status is first reached, and the change is announced by one event and
one message. Every decision is counted by result and target status.
-/

namespace Rebill.Ledger

open Svc

/-- A requested change of a payment's status. -/
structure StatusRequest where
  status : PaymentStatus
  notify : Bool := false
  note : Option String := none
  errorMessage : Option String := none
  paidAt : Option Instant := none
deriving Repr

def paymentKey (id : Ident) : String := "payment:" ++ id.text

/-- The decision under the lock: the old and new status when the payment changed. -/
def applyLocked (id : Ident) (u : StatusRequest) : Svc (Option (PaymentStatus × PaymentStatus)) := do
  let p ← Attempts.payment id
  if p.status == u.status then
    count (.statusTransition "noop" u.status)
    return none
  if p.status.isPaidLike && u.status == .fail then
    count (.statusTransition "rejected" u.status)
    return none
  let t ← now
  let paidAt := if u.status.isPaidLike && p.paidAt.isNone then some (u.paidAt.getD t) else none
  let saved ← stored ((← store).savePaymentStatus id
    { status := u.status, paidAt, note := u.note, errorMessage := u.errorMessage } t)
  count (.statusTransition "applied" u.status)
  pure (some (p.status, saved.status))

/-- Moves a payment to the requested status; whether it changed. -/
def updateStatus (id : Ident) (u : StatusRequest) : Svc Bool := do
  match ← withLock (paymentKey id) (applyLocked id u) with
  | none => pure false
  | some (old, new) =>
    emit (.paymentStatusChanged id old new u.notify) "update_status"
    publish ⟨id, u.notify⟩ "update_status"
    pure true

end Rebill.Ledger
