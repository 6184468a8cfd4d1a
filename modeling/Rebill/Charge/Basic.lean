import Rebill.Ident
import Rebill.Decimal
import Rebill.Time.Instant
import Rebill.Charge.State

/-!
# Charge attempts

A `Charge` is one attempt to charge a stored method for the renewal of a parent payment. It is
due at `chargeAt`, has a budget of `retries`, may carry a custom amount and a renewal catalog
item, and once a payment has been opened for it, that payment. Its `status` is a free code: the
gateway's last result code, or `IN_FLIGHT` while a run owns it. The note is a log of lines.

`ChargeDraft` is what a new attempt is made from, and `ChargeUpdate` the fields a move of state
may write along the way.
-/

namespace Rebill

/-- A stored charge attempt. -/
structure Charge where
  id : Ident
  method : Ident
  parent : Ident
  payment : Option Ident
  chargeAt : Instant
  retries : Int
  customAmount : Option Decimal
  renewalItem : Option Ident
  state : ChargeState
  status : Option String
  note : Option String
  token : String
  created : Instant
  updated : Instant
deriving Repr, Inhabited

/-- The fields of an attempt to be made. -/
structure ChargeDraft where
  method : Ident
  parent : Ident
  chargeAt : Instant
  retries : Int
  customAmount : Option Decimal
  renewalItem : Option Ident
  note : Option String
deriving Repr

/-- What a move of state writes besides the state: a status, a payment, a line of note. -/
structure ChargeUpdate where
  status : Option String := none
  payment : Option Ident := none
  note : Option String := none
deriving Repr

def inFlight : String := "IN_FLIGHT"

namespace Charge

/-- A note with one more line: the line alone when the note is empty or missing. -/
def addLine (note : Option String) (line : String) : String :=
  match note with
  | some e => if e.isEmpty then line else e ++ "\n" ++ line
  | none => line

def pushNote (c : Charge) (line : String) : Charge :=
  { c with note := some (addLine c.note line) }

/-- The attempt made from a draft: active, without status or payment. -/
def ofDraft (id : Ident) (d : ChargeDraft) (token : String) (now : Instant) : Charge :=
  { id, method := d.method, parent := d.parent, payment := none, chargeAt := d.chargeAt,
    retries := d.retries, customAmount := d.customAmount, renewalItem := d.renewalItem,
    state := .active, status := none, note := d.note, token, created := now, updated := now }

/-- The attempt moved to `t` with the update written: a given status or payment replaces the
old one, a given note line is added. -/
def moveTo (c : Charge) (t : ChargeState) (u : ChargeUpdate) : Charge :=
  let c := { c with state := t, status := u.status.orElse (fun _ => c.status),
                    payment := u.payment.orElse (fun _ => c.payment) }
  match u.note with
  | some line => c.pushNote line
  | none => c

end Charge

end Rebill
