import Rebill.Script.Gateways
import Rebill.Service.Expiry

/-!
# Commands on the engine

The commands that write the store directly (seeding payments and attempts), and those that call
the engine's operations on attempts, the ledger, runs and expiry dates. Each reads its fields,
resolves the names in them, runs the operation, names what the operation made, and answers the
result as JSON.
-/

namespace Rebill.Script

open Step

def clock : Step Instant := do return (← get).engine.now

/-- The store, which a session built from settings has no handle on. -/
def storeHandle : Step Store := do
  let s ← get
  if s.fromSettings then throw (.badInput "no memory store handle when built from the environment")
  pure s.engine.store

def putStore (st : Store) : Step Unit :=
  modify fun s => { s with engine := { s.engine with store := st } }

def seedPayment (o : Json) : Step Json := do
  let id ← ident o "id"
  let user ← resolve (← read (stringOr o "user" "u"))
  let gateway ← read (stringOr o "gateway" "test")
  let status ← read (statusOf (← read (stringOr o "status" "paid")))
  let amount ← read (decimalOf (← read (stringOr o "amount" "19.99")))
  let paidAt ← read (optInstant o "paid_at")
  let subscription ← identOpt o "subscription"
  let catalogItem ← identOpt o "catalog_item"
  let address ← identOpt o "address"
  let isRecurrent ← read (boolOr o "is_recurrent" false)
  let parent ← identOpt o "parent"
  let note ← read (optString o "note")
  let errorMessage ← read (optString o "error_message")
  let t ← clock
  let p : Payment := { id, user, gateway, status, amount, paidAt, subscription, catalogItem,
                       address, isRecurrent, parent, note, errorMessage, created := t, updated := t }
  putStore ((← storeHandle).insertPayment p)
  names (·.seePayment id)
  pure (ofPayment p)

def createPayment (o : Json) : Step Json := do
  let user ← resolve (← read (stringOr o "user" "u"))
  let gateway ← read (stringOr o "gateway" "test")
  let amount ← read (decimalOf (← read (stringOr o "amount" "19.99")))
  let subscription ← identOpt o "subscription"
  let catalogItem ← identOpt o "catalog_item"
  let address ← identOpt o "address"
  let isRecurrent ← read (boolOr o "is_recurrent" false)
  let parent ← identOpt o "parent"
  let (p, st) := (← get).engine.store.createPayment
    { user, gateway, amount, subscription, catalogItem, address, isRecurrent, parent } (← clock)
  putStore st
  nameResult o 'p' p.id
  names (·.seePayment p.id)
  pure (ofPayment p)

/-- Writes an attempt as described, replacing one with its identifier. -/
def putCharge (o : Json) : Step Json := do
  let id ← ident o "id"
  let method ← ident o "method"
  let parent ← ident o "parent"
  let payment ← identOpt o "payment"
  let chargeAt ← read (reqInstant o "charge_at")
  let retries := (← read (optInt32 o "retries")).getD 3
  let customAmount ← read (optDecimal o "custom_amount")
  let renewalItem ← identOpt o "renewal_catalog_item"
  let state ← read (stateOf (← read (stringOr o "state" "active")))
  let status ← read (optString o "status")
  let note ← read (optString o "note")
  let token ← read (stringOr o "token" "")
  let t ← clock
  let st := (← storeHandle).putCharge
    { id, method, parent, payment, chargeAt, retries, customAmount, renewalItem, state, status,
      note, token, created := t, updated := t }
  putStore st
  names (·.seeCharge id)
  pure (ofOption ofCharge (st.charge? id))

def madeCharge (o : Json) (c : Charge) : Step Json := do
  nameResult o 'c' c.id
  names (·.seeCharge c.id)
  pure (ofCharge c)

/-- Attempts in the order the script saw them made; those it never saw come last, in the order
given. -/
def inSeenOrder (t : NameTable) (cs : List Charge) : List Charge :=
  let rank := fun (c : Charge) => (t.charges.findIdx? (· == c.id)).getD t.charges.length
  cs.mergeSort fun a b => decide (rank a ≤ rank b)

def chargeField (o : Json) : Step Charge := do
  let id ← ident o "charge"
  engine (Attempts.get id)

/-- The identifiers named by the `ids` list, when present. -/
def idsField (o : Json) : Step (Option (List Ident)) := do
  match ← read (optList o "ids") with
  | none => pure none
  | some items => some <$> items.mapM fun v => match v with
    | .string n => resolve n
    | _ => throw (.badInput "ids must be strings")

/-- The subscription row described by the `subscription` field, when present. -/
def subscriptionField (o : Json) : Step (Option Subscription) := do
  match field? o "subscription" with
  | none => pure none
  | some s => do
    let id ← ident s "id"
    pure (some { id, startAt := ← read (reqInstant s "start_at"),
                 endAt := ← read (reqInstant s "end_at") })

def termsField (o : Json) : Step Terms := do
  let t := (field? o "terms").getD (.object [])
  pure { lengthDays := (← read (optInt64 t "length_days")).getD 0,
         chargeBeforeHours := ← read (optInt64 t "charge_before_hours") }

/-- A gateway response described in JSON, with defaults for a callback. -/
def callbackResponse (o : Json) (succeeded : Bool) : Reading GatewayResponse := do
  let r := (field? o "response").getD (.object [])
  pure { code := ← stringOr r "code" (if succeeded then "CALLBACK_OK" else "CALLBACK_FAIL"),
         message := ← stringOr r "message" "",
         successful := ← boolOr r "successful" succeeded,
         data := (field? r "data").getD .null }

/-- Runs the commands on attempts, the ledger, runs and expiry dates. -/
def engineCommand (op : String) (o : Json) : Option (Step Json) :=
  match op with
  | "seed_payment" => some (seedPayment o)
  | "create_payment" => some (createPayment o)
  | "put_charge" => some (putCharge o)
  | "gateway_push" => some (gatewayPush o)
  | "gateway_set" => some (gatewaySet o)
  | "register_method" => some do
    let user ← resolve (← read (stringOr o "user" "u"))
    let gateway ← read (stringOr o "gateway" "test")
    let token ← read (reqString o "token")
    let m ← engine (Attempts.registerMethod user gateway token)
    nameResult o 'm' m.id
    names (·.seeMethod m.id)
    pure (ofMethod m)
  | "set_method_expiry" => some do
    let m ← ident o "method"
    let d ← read (dateOf (← read (reqString o "date")))
    engine (Attempts.updateMethodExpiry m d)
    pure .null
  | "create_attempt" => some do
    let method ← ident o "method"
    let parent ← ident o "parent"
    let chargeAt ← read (reqInstant o "charge_at")
    let amount ← read (optDecimal o "custom_amount")
    let retries ← read (optInt32 o "retries")
    madeCharge o (← engine (Attempts.createAttempt method parent chargeAt amount retries))
  | "create_attempt_from" => some do
    let method ← ident o "method"
    let parent ← ident o "parent"
    let chargeAt ← read (reqInstant o "charge_at")
    let retries ← read (optInt32 o "retries")
    let customAmount ← read (optDecimal o "custom_amount")
    let renewalItem ← identOpt o "renewal_catalog_item"
    let note ← read (optString o "note")
    let dflt := (← get).engine.policy.defaultRetries
    madeCharge o (← engine (Attempts.createAttemptFrom
      { method, parent, chargeAt, retries := retries.getD dflt, customAmount, renewalItem, note }))
  | "schedule_next" => some do
    let id ← ident o "charge"
    let sub ← subscriptionField o
    let terms ← termsField o
    let c ← engine (Attempts.get id)
    madeCharge o (← engine (Attempts.scheduleNext c sub terms))
  | "transition" => some do
    let id ← ident o "charge"
    let t ← read (stateOf (← read (reqString o "to")))
    let actor ← read (actorOf (← read (reqString o "actor")))
    let status ← read (optString o "status")
    let payment ← identOpt o "payment"
    let note ← read (optString o "note")
    ofCharge <$> engine (Attempts.transition id t actor { status, payment, note })
  | "get" => some (ofCharge <$> chargeField o)
  | "claim" => some do ofOption ofCharge <$> engine (Attempts.claim (← ident o "charge"))
  | "release_claim" => some do ofCharge <$> engine (Attempts.releaseClaim (← ident o "charge"))
  | "link_payment" => some do
    let id ← ident o "charge"
    let p ← ident o "payment"
    ofIdent <$> engine (Attempts.linkPayment id p)
  | "rearm_failed" => some do ofCharge <$> engine (Attempts.rearmFailed (← ident o "charge"))
  | "can_be_stopped" => some do .bool <$> engine (Attempts.canBeStopped (← chargeField o))
  | "can_be_stopped_by_user" => some do
    .bool <$> engine (Attempts.canBeStoppedByUser (← chargeField o))
  | "is_effectively_stopped" => some do
    .bool <$> engine (Attempts.isEffectivelyStopped (← chargeField o))
  | "previous_charged" => some do
    ofOption ofCharge <$> engine (Attempts.previousCharged (← chargeField o))
  | "stop_by_user" => some do ofCharge <$> engine (Attempts.stopByUser (← ident o "charge"))
  | "stop_by_admin" => some do
    let id ← ident o "charge"
    let reason ← read (stringOr o "reason" "")
    ofCharge <$> engine (Attempts.stopByAdmin id reason)
  | "reactivate_after_system_stop" => some do
    madeCharge o (← engine (Attempts.reactivateAfterSystemStop (← ident o "charge")))
  | "reactivate_by_user" => some do
    ofCharge <$> engine (Attempts.reactivateByUser (← ident o "charge"))
  | "chargeable" => some do
    let ids ← idsField o
    let due ← engine (Attempts.chargeable ids)
    pure (.array ((inSeenOrder (← get).names due).map (ofIdent ·.id)))
  | "latest_for_parent" => some do
    let p ← ident o "parent"
    pure (ofOption ofCharge ((← get).engine.store.latestForParent p))
  | "charges_for_parent" => some do
    let p ← ident o "parent"
    let st ← storeHandle
    pure (.array ((st.chargesForParent p).map ofCharge))
  | "update_status" => some do
    let id ← ident o "payment"
    let status ← read (statusOf (← read (reqString o "status")))
    let notify ← read (boolOr o "notify" false)
    let paidAt ← read (optInstant o "paid_at")
    let note ← read (optString o "note")
    let errorMessage ← read (optString o "error_message")
    .bool <$> engine (Ledger.updateStatus id { status, notify, note, errorMessage, paidAt })
  | "get_payment" => some do
    let id ← ident o "payment"
    pure (ofOption ofPayment ((← get).engine.store.payment? id))
  | "list_logs" => some do
    let id ← ident o "payment"
    pure (.array (((← get).engine.store.auditOf id).map ofAudit))
  | "resolve_pending" => some do
    let id ← ident o "charge"
    let some succeeded ← read (optBool o "succeeded")
      | throw (.badInput "missing field 'succeeded'")
    let r ← read (callbackResponse o succeeded)
    ofCharge <$> engine (Run.resolvePending id succeeded r)
  | "refresh_expiry" => some do
    let g ← read (stringOr o "gateway" "test")
    ofInt <$> engine (Expiry.refresh g)
  | _ => none

end Rebill.Script
