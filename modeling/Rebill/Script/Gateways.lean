import Rebill.Script.Session

/-!
# Scripted gateways in scripts

A script describes its gateways as JSON: the id, whether charges may be stopped at all or by the
user, the status a settled charge takes, whether expiry dates can be asked for, the dates it
knows per token, and a failure that every expiry question meets; `null` for that failure
removes it. A plain gateway keeps every
behaviour but charging and expiry support at the default.

`gateway_push` appends a reply to a scripted gateway's list, and `gateway_set` changes its flags.
-/

namespace Rebill.Script

open Step

/-- A failure described in JSON: its code (default `E`), message, success flag, data and kind. -/
def failureOf (o : Json) : Reading GatewayFailure := do
  let code ← stringOr o "code" "E"
  let message ← stringOr o "message" ""
  let successful ← boolOr o "successful" false
  let data := (field? o "data").getD .null
  let k ← reqString o "kind"
  let some kind := FailureKind.ofName? k | bad ("unknown gateway error kind '" ++ k ++ "'")
  pure ⟨kind, { code, message, successful, data }⟩

/-- The expiry dates of a gateway description, by token in the order of the tokens. -/
def expiriesOf (o : Json) : Reading (Option (List (String × Date))) := do
  match field? o "expiries" with
  | none => pure none
  | some (.object fs) => some <$> fs.mapM fun (token, v) => do
    match v with
    | .string s => pure (token, ← dateOf s)
    | _ => bad "expiry must be a date string"
  | some _ => bad "'expiries' must be an object"

/-- The flags a gateway description may set; a missing one keeps the gateway's own. -/
structure GatewayFlags where
  unstoppable : Option Bool
  userUnstoppable : Option Bool
  paidStatus : Option PaymentStatus
  expiryCheck : Option Bool
  expiries : Option (List (String × Date))
  /-- `some none` removes the failure of expiry questions. -/
  expiryFailure : Option (Option GatewayFailure)

/-- The flags of a gateway description, read in this order. -/
def flagsOf (o : Json) : Reading GatewayFlags := do
  let unstoppable ← optBool o "unstoppable"
  let userUnstoppable ← optBool o "user_unstoppable"
  let paidStatus ← match ← optString o "paid_status" with
    | some s => some <$> statusOf s
    | none => pure none
  let expiryCheck ← optBool o "expiry_check"
  let expiries ← expiriesOf o
  let expiryFailure ← match o.field? "expire_error" with
    | some .null => pure (some none)
    | some e => (some ∘ some) <$> failureOf e
    | none => pure none
  pure { unstoppable, userUnstoppable, paidStatus, expiryCheck, expiries, expiryFailure }

/-- A gateway with the flags set; a plain gateway takes only the expiry check. -/
def GatewayFlags.apply (f : GatewayFlags) (g : Gateway) (plain : Bool) : Gateway :=
  if plain then { g with expiryCheck := f.expiryCheck.getD g.expiryCheck }
  else { g with unstoppable := f.unstoppable.getD g.unstoppable,
                userUnstoppable := f.userUnstoppable.getD g.userUnstoppable,
                paidStatus := f.paidStatus.getD g.paidStatus,
                expiryCheck := f.expiryCheck.getD g.expiryCheck,
                expiries := f.expiries.getD g.expiries,
                expiryFailure := f.expiryFailure.getD g.expiryFailure }

/-- The instant of a charge a scripted gateway reports: the `charged_at` field of the response's
data, when it is an RFC 3339 text. -/
def reportedChargedAt (r : GatewayResponse) : Option Instant :=
  match (r.data.field? "charged_at").bind Json.asString? with
  | some s => match readInstant s with
    | .ok t => some t
    | .error _ => none
  | none => none

/-- A scripted gateway from its description, and whether it is plain. -/
def gatewayOf (o : Json) : Reading (Gateway × Bool) := do
  let id ← reqString o "id"
  let flags ← flagsOf o
  let plain ← boolOr o "plain" false
  let base : Gateway :=
    { id, chargedAt := if plain then fun _ => none else reportedChargedAt,
      answering := .scripted [] }
  pure (flags.apply base plain, plain)

def scripted (id : String) : Step Gateway := do
  match (← get).engine.gateways.get? id with
  | some g => if g.answering matches .scripted _ then pure g
              else throw (.badInput ("no scripted gateway '" ++ id ++ "'"))
  | none => throw (.badInput ("no scripted gateway '" ++ id ++ "'"))

def putGateway (g : Gateway) : Step Unit :=
  modify fun s => { s with engine := { s.engine with gateways := s.engine.gateways.register g } }

/-- The reply a `gateway_push` command describes; its kind is read last. -/
def replyOf (o : Json) : Reading ChargeReply := do
  let code ← optString o "code"
  let message ← stringOr o "message" ""
  let successful ← optBool o "successful"
  let data := (field? o "data").getD .null
  let kind ← stringOr o "kind" "ok"
  let response := fun (dflt : String) (ok : Bool) =>
    ({ code := code.getD dflt, message, successful := successful.getD ok, data } : GatewayResponse)
  if kind = "ok" then
    if code.isNone then pure Gateway.approval else pure (.settled (response "CHARGE_OK" true))
  else if kind = "pending" then pure (.pending (response "CHARGE_PENDING" true))
  else match FailureKind.ofName? kind with
    | some k => pure (.failed ⟨k, response "E" false⟩)
    | none => bad ("unknown gateway error kind '" ++ kind ++ "'")

def gatewayPush (o : Json) : Step Json := do
  let g ← scripted (← read (stringOr o "gateway" "test"))
  let r ← read (replyOf o)
  match g.answering with
  | .scripted rs => putGateway { g with answering := .scripted (rs ++ [r]) }
  | _ => pure ()
  pure .null

def gatewaySet (o : Json) : Step Json := do
  let id ← read (stringOr o "gateway" "test")
  let g ← scripted id
  let plain := (← get).plainGateways.contains id
  putGateway ((← read (flagsOf o)).apply g plain)
  pure .null

end Rebill.Script
