import Rebill.Gateway.Response
import Rebill.Payment.Basic

/-!
# Gateways

A `Gateway` is a payment processor as the billing core sees it: whether its charges may be
stopped at all or by the user, the status a settled charge takes, the instant of a charge it
reports from a response (none, unless the gateway says so), and whether it can tell when stored
credentials expire.

Three kinds answer charges. The manual gateway leaves every charge pending until someone settles
it out of band. A scripted gateway answers from a list of replies given in advance, one per
charge, and approves once the list is used up; it remembers every charge it was asked for. A
gateway outside the crate is given by its answer, a function of the amount and the credential's
token.

A `GatewayRegistry` holds the gateways by id; registering an id again replaces the gateway.
-/

namespace Rebill

/-- How a gateway answers a charge. -/
inductive Answering where
  /-- Every charge stays pending. -/
  | manual
  /-- Replies given in advance, taken one per charge. -/
  | scripted (replies : List ChargeReply)
  /-- A gateway outside the crate, answering each charge by the amount and the token. -/
  | answers (reply : Decimal → String → ChargeReply)
deriving Inhabited

/-- A payment processor. -/
structure Gateway where
  id : String
  unstoppable : Bool := false
  userUnstoppable : Bool := false
  paidStatus : PaymentStatus := .paid
  /-- The instant of a charge the gateway reports from its response. -/
  chargedAt : GatewayResponse → Option Instant := fun _ => none
  expiryCheck : Bool := false
  expiries : List (String × Date) := []
  expiryFailure : Option GatewayFailure := none
  answering : Answering
deriving Inhabited

/-- A charge a scripted gateway was asked for. -/
structure GatewayCall where
  gateway : String
  payment : Ident
  token : String
  amount : Decimal
  status : PaymentStatus
deriving Repr, Inhabited

namespace Gateway

def manualId : String := "manual"

def manual : Gateway := { id := manualId, answering := .manual }

/-- The approval a scripted gateway gives when it has no reply left. -/
def approval : ChargeReply :=
  .settled { code := "CHARGE_OK", message := "Approved", successful := true,
             data := .object [("auth_code", .string "A1B2C3")] }

/-- Answers a charge of a payment: the reply, the gateway with its script advanced, and the
call it remembers, if it is scripted. -/
def charge (g : Gateway) (p : Payment) (token : String) :
    ChargeReply × Gateway × Option GatewayCall :=
  match g.answering with
  | .manual =>
    (.pending { code := "MANUAL_PENDING", message := "Awaiting manual settlement",
                successful := true, data := .object [("payment_id", .string p.id.text)] },
     g, none)
  | .scripted replies =>
    let call : GatewayCall := ⟨g.id, p.id, token, p.amount, p.status⟩
    match replies with
    | [] => (approval, g, some call)
    | r :: rest => (r, { g with answering := .scripted rest }, some call)
  | .answers reply => (reply p.amount token, g, none)

/-- The expiry dates the gateway knows for the tokens, or its failure. -/
def checkExpire (g : Gateway) (tokens : List String) :
    Except GatewayFailure (List (String × Date)) :=
  match g.expiryFailure with
  | some f => .error f
  | none => .ok (g.expiries.filter (fun e => tokens.contains e.1))

end Gateway

/-- Gateways by id. -/
structure GatewayRegistry where
  gateways : List Gateway := []
deriving Inhabited

namespace GatewayRegistry

def get? (r : GatewayRegistry) (id : String) : Option Gateway := r.gateways.find? (·.id == id)

def register (r : GatewayRegistry) (g : Gateway) : GatewayRegistry :=
  ⟨if r.gateways.any (·.id == g.id) then r.gateways.map (fun h => if h.id == g.id then g else h)
   else r.gateways ++ [g]⟩

def ids (r : GatewayRegistry) : List String :=
  (r.gateways.map (·.id)).mergeSort (fun a b => decide (a ≤ b))

def unknown (id : String) : String := "Unknown gateway '" ++ id ++ "'"

end GatewayRegistry

end Rebill
