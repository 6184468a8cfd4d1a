import Rebill.Service.Run
import Rebill.Json.Value

/-!
# Records as JSON

The JSON form of the engine's records in script answers: payments, attempts, stored methods,
audit entries, events, messages, gateway calls and run summaries. Identifiers are written as
UUIDs, instants in RFC 3339, dates as `YYYY-MM-DD` and amounts as decimal texts; a missing
optional field is `null`.
-/

namespace Rebill.Script

def ofInt (i : Int) : Json := .number (.whole i)

def ofText (s : String) : Json := .string s

def ofIdent (i : Ident) : Json := .string i.text

def ofInstant (t : Instant) : Json := .string t.rfc3339

def ofOption {α : Type} (f : α → Json) : Option α → Json
  | some a => f a
  | none => .null

def ofPayment (p : Payment) : Json :=
  .object [("payment_id", ofIdent p.id), ("user_id", ofIdent p.user), ("gateway", ofText p.gateway),
    ("status", ofText p.status.name), ("amount", ofText p.amount.text),
    ("paid_at", ofOption ofInstant p.paidAt), ("subscription_id", ofOption ofIdent p.subscription),
    ("catalog_item_id", ofOption ofIdent p.catalogItem), ("address_id", ofOption ofIdent p.address),
    ("is_recurrent", .bool p.isRecurrent), ("parent_payment_id", ofOption ofIdent p.parent),
    ("note", ofOption ofText p.note), ("error_message", ofOption ofText p.errorMessage),
    ("created_utc", ofInstant p.created), ("updated_utc", ofInstant p.updated)]

def ofCharge (c : Charge) : Json :=
  .object [("charge_id", ofIdent c.id), ("method_id", ofIdent c.method),
    ("parent_payment_id", ofIdent c.parent), ("payment_id", ofOption ofIdent c.payment),
    ("charge_at", ofInstant c.chargeAt), ("retries", ofInt c.retries),
    ("custom_amount", ofOption (ofText ·.text) c.customAmount),
    ("renewal_catalog_item_id", ofOption ofIdent c.renewalItem), ("state", ofText c.state.name),
    ("status", ofOption ofText c.status), ("note", ofOption ofText c.note),
    ("external_token", ofText c.token), ("created_utc", ofInstant c.created),
    ("updated_utc", ofInstant c.updated)]

def ofMethod (m : Method) : Json :=
  .object [("method_id", ofIdent m.id), ("user_id", ofIdent m.user), ("gateway", ofText m.gateway),
    ("external_token", ofText m.token), ("expires_on", ofOption (ofText ·.text) m.expiresOn),
    ("created_utc", ofInstant m.created)]

def ofAudit (e : AuditEntry) : Json :=
  .object [("payment_id", ofIdent e.payment), ("charge_id", ofOption ofIdent e.charge),
    ("success", .bool e.success), ("result_code", ofText e.code),
    ("result_message", ofText e.message), ("response", e.data), ("created_utc", ofInstant e.created)]

def ofEvent : BillingEvent → Json
  | .paymentStatusChanged p old new notify =>
    .object [("type", ofText "payment_status_changed"), ("payment_id", ofIdent p),
      ("old_status", ofText old.name), ("new_status", ofText new.name), ("notify_user", .bool notify)]
  | .chargeStateChanged c old new =>
    .object [("type", ofText "charge_state_changed"), ("charge_id", ofIdent c),
      ("old_state", ofText old.name), ("new_state", ofText new.name)]

def ofMessage (m : StatusMessage) : Json :=
  .object [("payment_id", ofIdent m.payment), ("notify_user", .bool m.notify)]

def ofCall (c : GatewayCall) : Json :=
  .object [("gateway", ofText c.gateway), ("payment_id", ofIdent c.payment),
    ("token", ofText c.token), ("amount", ofText c.amount.text), ("status", ofText c.status.name)]

def ofSummary (s : Run.Summary) : Json :=
  .object [("processed", ofInt s.processed), ("charged", ofInt s.charged),
    ("pending", ofInt s.pending), ("failed", ofInt s.failed), ("stopped", ofInt s.stopped),
    ("fast_charge_stopped", ofInt s.fastChargeStopped), ("unhandled", ofInt s.unhandled),
    ("skipped", ofInt s.skipped), ("errors", ofInt s.errors),
    ("attempts", .array (s.attempts.map (ofText ·.text)))]

def ofResponse (r : GatewayResponse) : Json :=
  .object [("code", ofText r.code), ("message", ofText r.message),
    ("successful", .bool r.successful), ("data", r.data)]

end Rebill.Script
