import Rebill.Ident
import Rebill.Decimal
import Rebill.Time.Instant
import Rebill.Payment.Status

/-!
# Payments

A `Payment` is one payment of a user through a gateway: its status, amount, the instant it was
paid, the subscription, catalog item and address it belongs to, the payment it renews, and the
note and error message written by the last change of status. `PaymentDraft` is what a new payment
is opened from, and `StatusWrite` what a change of status writes.
-/

namespace Rebill

/-- A stored payment. -/
structure Payment where
  id : Ident
  user : Ident
  gateway : String
  status : PaymentStatus
  amount : Decimal
  paidAt : Option Instant
  subscription : Option Ident
  catalogItem : Option Ident
  address : Option Ident
  isRecurrent : Bool
  parent : Option Ident
  note : Option String
  errorMessage : Option String
  created : Instant
  updated : Instant
deriving Repr, Inhabited

/-- The fields of a payment to be opened. -/
structure PaymentDraft where
  user : Ident
  gateway : String
  amount : Decimal
  subscription : Option Ident
  catalogItem : Option Ident
  address : Option Ident
  isRecurrent : Bool
  parent : Option Ident
deriving Repr

/-- A change of status as it is written: the paid instant is kept only if none was set, and the
note and error message only replace what was there when given. -/
structure StatusWrite where
  status : PaymentStatus
  paidAt : Option Instant
  note : Option String
  errorMessage : Option String
deriving Repr

namespace Payment

def ofDraft (id : Ident) (d : PaymentDraft) (now : Instant) : Payment :=
  { id, user := d.user, gateway := d.gateway, status := .form, amount := d.amount,
    paidAt := none, subscription := d.subscription, catalogItem := d.catalogItem,
    address := d.address, isRecurrent := d.isRecurrent, parent := d.parent, note := none,
    errorMessage := none, created := now, updated := now }

/-- The payment after a change of status written at `now`. -/
def write (p : Payment) (w : StatusWrite) (now : Instant) : Payment :=
  { p with
    status := w.status
    paidAt := if p.paidAt.isNone then w.paidAt else p.paidAt
    note := if w.note.isSome then w.note else p.note
    errorMessage := if w.errorMessage.isSome then w.errorMessage else p.errorMessage
    updated := now }

end Payment

end Rebill
