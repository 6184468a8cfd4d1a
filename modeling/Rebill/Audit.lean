import Rebill.Ident
import Rebill.Time.Instant
import Rebill.Json.Value

/-!
# The audit log

Every gateway answer that settles an attempt is written to the audit log of its payment: the
attempt, whether it was successful, the result code and message, and the gateway's data.
-/

namespace Rebill

/-- One entry of the audit log. -/
structure AuditEntry where
  payment : Ident
  charge : Option Ident
  success : Bool
  code : String
  message : String
  data : Json
  created : Instant
deriving Repr, Inhabited

end Rebill
