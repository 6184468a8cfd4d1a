import Rebill.Script.Commands

/-!
# Queries and helpers of scripts

Commands that read without changing the store: the state table, statuses, the schedule
calculation on a described payment, gateways, recorded events and counters. Also the commands
that take and give back locks by key, move the clock, and give names to the identifiers an
attempt links.

A lock key in a command may name entities in braces: `payment:{p}` stands for the key of the
payment named `p`.
-/

namespace Rebill.Script

open Step

/-- The first two lines of the counters' text: the help and type of the lock-wait histogram. -/
def lockWaitLines : List String :=
  ["# HELP recurrent_lock_wait_seconds Time spent acquiring advisory locks",
   "# TYPE recurrent_lock_wait_seconds histogram"]

def expandKey (cs : List Char) (acc : String) : Step String :=
  match cs with
  | [] => pure acc
  | '{' :: rest =>
    let name := rest.takeWhile (· != '}')
    if name.length = rest.length then throw (.badInput "unclosed '\x7b' in key")
    else do
      let id ← resolve (String.ofList name)
      expandKey (rest.drop (name.length + 1)) (acc ++ id.text)
  | c :: rest => expandKey rest (acc.push c)
termination_by cs.length
decreasing_by
  all_goals simp_wf
  all_goals omega

def keyField (o : Json) : Step String := do
  let k ← read (reqString o "key")
  expandKey k.toList ""

/-- The locks, which a session built from settings has no handle on. -/
def lockHandle : Step Unit := do
  if (← get).fromSettings then throw (.badInput "no lock handle when built from the environment")

/-- A payment described in JSON, as `seed_payment` describes one, without storing it. -/
def describedPayment (o : Json) : Step Payment := do
  let id ← ident o "id"
  let user ← resolve (← read (stringOr o "user" "u"))
  let gateway ← read (stringOr o "gateway" "test")
  let status ← read (statusOf (← read (stringOr o "status" "paid")))
  let amount ← read (decimalOf (← read (stringOr o "amount" "19.99")))
  let paidAt ← read (optInstant o "paid_at")
  let subscription ← identOpt o "subscription"
  let catalogItem ← identOpt o "catalog_item"
  let address ← identOpt o "address"
  let isRecurrent ← read (boolOr o "is_recurrent" false)
  let parent ← identOpt o "parent"
  let note ← read (optString o "note")
  let errorMessage ← read (optString o "error_message")
  let t ← clock
  pure { id, user, gateway, status, amount, paidAt, subscription, catalogItem, address,
         isRecurrent, parent, note, errorMessage, created := t, updated := t }

/-- The events of the recorder about one payment or one attempt. -/
def eventsAbout (evs : List BillingEvent) (payment : Option Ident) (charge : Option Ident) :
    List BillingEvent :=
  evs.filter fun
    | .paymentStatusChanged p _ _ _ => payment == some p
    | .chargeStateChanged c _ _ => charge == some c

def queryCommand (op : String) (o : Json) : Option (Step Json) :=
  match op with
  | "allows" => some do
    let s ← read (stateOf (← read (reqString o "from")))
    let t ← read (stateOf (← read (reqString o "to")))
    let a ← read (actorOf (← read (reqString o "actor")))
    pure (.object [("allows", .bool (s.allows t a)), ("from_is_stop", .bool s.isStop),
                   ("to_is_stop", .bool t.isStop)])
  | "payment_status" => some do
    let s ← read (reqString o "status")
    match PaymentStatus.ofName? s with
    | some st => pure (.object [("parsed", ofText st.name), ("paid_like", .bool st.isPaidLike)])
    | none => pure (.object [("parsed", .null)])
  | "describe" => some do
    let actor ← match ← read (optString o "actor") with
      | some a => do pure [("actor", ofText (← read (actorOf a)).name)]
      | none => pure []
    let state ← match ← read (optString o "state") with
      | some s => do
        let st ← read (stateOf s)
        pure [("state", .object [("as_str", ofText st.name), ("display", ofText st.name),
                                 ("is_stop", .bool st.isStop)])]
      | none => pure []
    let status ← match ← read (optString o "status") with
      | some s => do
        let st ← read (statusOf s)
        pure [("status", .object [("as_str", ofText st.name), ("display", ofText st.name),
                                  ("paid_like", .bool st.isPaidLike)])]
      | none => pure []
    pure (.object (actor ++ state ++ status))
  | "calculate_charge_at" => some do
    let some po := field? o "payment" | throw (.badInput "missing field 'payment'")
    let p ← describedPayment po
    let sub ← subscriptionField o
    let terms ← termsField o
    let lead ← read (optInt64 o "global_charge_before_hours")
    let asOf ← match ← read (optInstant o "at") with
      | some t => pure t
      | none => clock
    match (nextChargeAt p sub terms lead asOf).run with
    | .ok (.ok t) => pure (ofInstant t)
    | .ok (.error e) => throw (.billing (.invalidSchedule e.message))
    | .error ov => throw (.halt ov.message)
  | "gateway_ids" => some do
    let id ← read (stringOr o "id" "test")
    let reg := (← get).engine.gateways
    pure (.object [("ids", .array (reg.ids.map ofText)), ("has", .bool (reg.get? id).isSome),
      ("require", match reg.get? id with
        | some _ => ofText id
        | none =>
          let e := BillingError.gateway (GatewayRegistry.unknown id)
          .object [("error", ofText (BillingError.kindName e)), ("message", ofText e.text)])])
  | "gateway_error" => some do
    let f ← read (failureOf o)
    pure (.object [("kind", ofText f.kind.name), ("response", ofResponse f.response),
                   ("display", ofText f.message)])
  | "recorded_events" => some do
    let rec_ := (← get).engine.recorded
    let payment ← identOpt o "payment"
    let charge ← identOpt o "charge"
    let pf := match payment with
      | some p => [("payment", Json.array ((eventsAbout rec_.events (some p) none).map ofEvent))]
      | none => []
    let cf := match charge with
      | some c => [("charge", Json.array ((eventsAbout rec_.events none (some c)).map ofEvent))]
      | none => []
    pure (.object ([("all", ofInt rec_.events.length),
                    ("messages", .array (rec_.messages.map ofMessage))] ++ pf ++ cf))
  | "metrics_text" => some (pure (.array (lockWaitLines.map ofText)))
  | "hold_lock" => some do
    let key ← keyField o
    lockHandle
    engine (Svc.acquire key)
    pure .null
  | "release_lock" => some do
    let key ← keyField o
    if !(← get).engine.held.contains key then throw (.badInput ("lock '" ++ key ++ "' not held"))
    lockHandle
    engine (Svc.release key)
    pure .null
  | "pg_release" => some do
    let key ← keyField o
    if (← get).fromSettings then throw (.badInput "no lock handle")
    if !(← get).engine.held.contains key then engine (Svc.acquire key)
    engine (Svc.release key)
    throw (.billing (.storage (.internal ("Lease for " ++ key ++ " was not issued by PostgreSQL"))))
  | "set_now" => some (pure .null)
  | "bind" => some do
    let id ← ident o "charge"
    let name ← read (reqString o "name")
    let c ← engine (Attempts.get id)
    let f ← read (reqString o "field")
    let target ← match f with
      | "payment_id" => match c.payment with
        | some p => pure p
        | none => throw (.badInput "field 'payment_id' is empty")
      | "method_id" => pure c.method
      | "parent_payment_id" => pure c.parent
      | _ => throw (.badInput ("cannot bind field '" ++ f ++ "'"))
    bindName name target
    pure (ofIdent target)
  | "snapshot" => some snapshot
  | "run" => some do
    let ids ← idsField o
    let _ ← read (boolOr o "run_once" false)
    let due := inSeenOrder (← get).names (← engine (Attempts.chargeable ids))
    if due.isEmpty then ofSummary <$> engine (Run.run ids)
    else
      -- one run per due attempt, in the order the script saw them, naming new payments between
      let total ← due.foldlM (fun (total : Run.Summary) c => do
        let s ← engine (Run.run (some [c.id]))
        discover
        pure (total.add s)) {}
      pure (ofSummary total)
  | _ => none

end Rebill.Script
