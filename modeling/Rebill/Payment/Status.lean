/-!
# Payment statuses

A payment is in one of eight statuses. Three of them, `paid`, `prepaid` and `authorized`, count as
paid: money has been taken or promised, and the ledger never turns such a payment into a failure.
Statuses are read from their lowercase names only.
-/

namespace Rebill

/-- The status of a payment. -/
inductive PaymentStatus where
  | form
  | paid
  | fail
  | timeout
  | refund
  | imported
  | prepaid
  | authorized
deriving DecidableEq, Repr, Inhabited

namespace PaymentStatus

def name : PaymentStatus → String
  | .form => "form"
  | .paid => "paid"
  | .fail => "fail"
  | .timeout => "timeout"
  | .refund => "refund"
  | .imported => "imported"
  | .prepaid => "prepaid"
  | .authorized => "authorized"

def ofName? : String → Option PaymentStatus
  | "form" => some .form
  | "paid" => some .paid
  | "fail" => some .fail
  | "timeout" => some .timeout
  | "refund" => some .refund
  | "imported" => some .imported
  | "prepaid" => some .prepaid
  | "authorized" => some .authorized
  | _ => none

/-- Paid, prepaid and authorized payments count as paid. -/
def isPaidLike : PaymentStatus → Bool
  | .paid | .prepaid | .authorized => true
  | _ => false

end PaymentStatus

end Rebill
