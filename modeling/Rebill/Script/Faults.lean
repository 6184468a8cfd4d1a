import Rebill.Script.Session
import Rebill.Backend.Failure
import Rebill.Json.Reader

/-!
# Classifying faults

`classify_error` builds a failure of one of the service's sources (the database, Redis, the
schema migrations, files, configuration, JSON, or a fault or engine error given outright) and
answers how the service classifies it: the fault it becomes, whether that fault is one of the
infrastructure, and the engine error that carries it, with whether that error is systemic. An
engine error given outright answers only the latter.
-/

namespace Rebill.Script

open Step

def databaseFailureOf (o : Json) : Reading DatabaseFailure := do
  let variant ← reqString o "variant"
  let message ← stringOr o "message" ""
  let unique ← boolOr o "unique" false
  match variant with
  | "row_not_found" => pure .rowNotFound
  | "pool_timed_out" => pure .poolTimedOut
  | "pool_closed" => pure .poolClosed
  | "worker_crashed" => pure .workerCrashed
  | "protocol" => pure (.protocol message)
  | "column_not_found" => pure (.columnNotFound message)
  | "configuration" => pure (.configuration message)
  | "io" => pure (.io message)
  | "database" => pure (.database message unique)
  | v => bad ("unknown sqlx variant '" ++ v ++ "'")

def cacheKindOf (s : String) : Reading CacheErrorKind :=
  match s with
  | "response" => pure .response
  | "auth" => pure .authentication
  | "type" => pure .type
  | "io" => pure .io
  | "client_config" => pure .clientConfig
  | "client" => pure .client
  | "busy_loading" => pure .busyLoading
  | k => bad ("unknown redis error kind '" ++ k ++ "'")

def cacheFailureOf (o : Json) : Reading CacheFailure := do
  let kind ← cacheKindOf (← reqString o "kind")
  let description ← reqString o "description"
  let detail ← stringOr o "message" ""
  pure { kind, description, detail := some detail }

def migrationFailureOf (o : Json) : Reading MigrationFailure := do
  let variant ← reqString o "variant"
  let version := (← optInt64 o "version").getD 0
  match variant with
  | "missing" => pure (.missing version)
  | "dirty" => pure (.dirty version)
  | "mismatch" => pure (.mismatch version)
  | v => bad ("unknown migrate variant '" ++ v ++ "'")

def faultOf (o : Json) : Reading Fault := do
  let variant ← reqString o "variant"
  let message ← stringOr o "message" ""
  match variant with
  | "bad_request" => pure (.badRequest message)
  | "not_found" => pure (.notFound message)
  | "conflict" => pure (.conflict message)
  | "internal" => pure (.internal message)
  | "unavailable" => pure .unavailable
  | "database" => pure (.database message)
  | "config" => pure (.config message)
  | v => bad ("unknown app variant '" ++ v ++ "'")

/-- The fault of a text that is read as JSON and does not read. -/
def jsonFaultOf (text : String) : Reading Fault :=
  match readJson text with
  | .ok _ => bad "text parses as JSON"
  | .error e => pure (.serialization e.message)

def billingErrorOf (o : Json) : Reading BillingError := do
  let variant ← reqString o "variant"
  match variant with
  | "invalid_schedule" => pure (.invalidSchedule (← stringOr o "message" ""))
  | "reactivation" => pure (.reactivationUnavailable (← stringOr o "message" ""))
  | "not_found" => pure (.notFound (← stringOr o "message" ""))
  | "gateway" => pure (.gateway (← stringOr o "message" ""))
  | "lock_timeout" =>
    -- a negative wait counts as none
    let ms := (← optInt64 o "ms").getD 0
    pure (.lockTimeout (← stringOr o "message" "") ms.toNat)
  | "illegal" =>
    pure (.illegalTransition (← stateOf (← reqString o "from")) (← stateOf (← reqString o "to")))
  | v => bad ("unknown billing variant '" ++ v ++ "'")

def ofFaultClass (f : Fault) : Json :=
  .object [("kind", ofText (Fault.kindName f)), ("message", ofText f.text),
           ("is_infrastructure", .bool f.isInfrastructure)]

def ofErrorClass (e : BillingError) : Json :=
  .object [("error", ofText (BillingError.kindName e)), ("message", ofText e.text),
           ("is_systemic", .bool e.isSystemic)]

/-- The fault a command's source describes, or the engine error it gives outright. -/
def classified (o : Json) : Reading (Sum Fault BillingError) := do
  match ← reqString o "source" with
  | "sqlx" => .inl <$> Fault.ofDatabase <$> databaseFailureOf o
  | "redis" => .inl <$> Fault.ofCache <$> cacheFailureOf o
  | "migrate" => .inl <$> Fault.ofMigration <$> migrationFailureOf o
  | "io" => .inl <$> Fault.internal <$> stringOr o "message" ""
  | "config" => .inl <$> Fault.config <$> stringOr o "message" ""
  | "json" => .inl <$> (jsonFaultOf (← stringOr o "message" ""))
  | "anyhow" => .inl <$> Fault.internal <$> stringOr o "message" ""
  | "app" => .inl <$> faultOf o
  | "billing" => .inr <$> billingErrorOf o
  | s => bad ("unknown error source '" ++ s ++ "'")

def faultCommand (op : String) (o : Json) : Option (Step Json) :=
  match op with
  | "classify_error" => some do
    match ← read (classified o) with
    | .inl f => pure (.object [("app", ofFaultClass f), ("billing", ofErrorClass (.storage f))])
    | .inr e => pure (.object [("billing", ofErrorClass e)])
  | _ => none

end Rebill.Script
