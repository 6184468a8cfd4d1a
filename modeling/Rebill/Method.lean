import Rebill.Ident
import Rebill.Time.Instant

/-!
# Stored payment methods

A stored method is a reusable credential of a user at a gateway: the gateway's token, and the
date it expires when the gateway has told.
-/

namespace Rebill

/-- A stored payment method. -/
structure Method where
  id : Ident
  user : Ident
  gateway : String
  token : String
  expiresOn : Option Date
  created : Instant
deriving Repr, Inhabited

end Rebill
