import Rebill.Json.Value

/-!
# What a gateway answers

A gateway answers a charge with a `GatewayResponse`: a result code, a message, whether the
gateway calls it successful, and free-form data. The answer is a `ChargeReply`: settled, pending
(the result comes later by callback), or a failure of one of three kinds. A retryable failure is
worth another try on a later run, a terminal one means the credential can never be charged again,
and a hard one is a result nobody classified, left for a person to look at.
-/

namespace Rebill

/-- The raw answer of a gateway. -/
structure GatewayResponse where
  code : String
  message : String
  successful : Bool
  data : Json := .null
deriving Repr, Inhabited

/-- The three kinds of failure. -/
inductive FailureKind where
  | retryable
  | terminal
  | hard
deriving DecidableEq, Repr, Inhabited

namespace FailureKind

def name : FailureKind → String
  | .retryable => "retryable"
  | .terminal => "terminal"
  | .hard => "hard"

def ofName? : String → Option FailureKind
  | "retryable" => some .retryable
  | "terminal" => some .terminal
  | "hard" => some .hard
  | _ => none

def describe : FailureKind → String
  | .retryable => "Retryable gateway failure"
  | .terminal => "Terminal gateway failure"
  | .hard => "Unhandled gateway result"

end FailureKind

/-- A failed charge or expiry check. -/
structure GatewayFailure where
  kind : FailureKind
  response : GatewayResponse
deriving Repr, Inhabited

def GatewayFailure.message (f : GatewayFailure) : String :=
  f.kind.describe ++ " " ++ f.response.code ++ ": " ++ f.response.message

/-- The answer of a gateway to a charge. -/
inductive ChargeReply where
  | settled (response : GatewayResponse)
  | pending (response : GatewayResponse)
  | failed (failure : GatewayFailure)
deriving Repr, Inhabited

def ChargeReply.response : ChargeReply → GatewayResponse
  | .settled r => r
  | .pending r => r
  | .failed f => f.response

end Rebill
