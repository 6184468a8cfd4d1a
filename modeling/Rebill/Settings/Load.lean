import Rebill.Settings.Environment
import Rebill.Settings.Number
import Rebill.Service.Basic

/-!
# The service's settings

The service reads its settings from the environment, after the shared ones (which also load the
`.env` file):

* `STORAGE_BACKEND` is `memory` or `postgres` (the default); `LOCK_BACKEND` is `local` (the
  default), `redis` or `postgres`; any other value is refused, exactly as written;
* `DATABASE_URL` is required for PostgreSQL storage; PostgreSQL locks need PostgreSQL storage;
* numbers and flags are trimmed, and a blank one counts as unset; one that does not read is
  refused as `Invalid KEY 'value': reason`, with the reason of the standard readers;
* the scheduling spans are whole hours, minutes or days, and one past the bounds of spans is
  refused as `KEY is out of range: value`;
* text settings (`SERVICE_NAME`, `REDIS_URL`, `PAYMENT_STATUS_QUEUE`, ...) are taken as they are,
  even when empty.

Settings are read in a fixed order, so that of two bad settings the first in that order is the
one refused.

The `.env` file and the shared settings are read by libraries of their own, which `Readers`
stands for: the loader takes them as a parameter, with what their documentation promises of
them, and the service is built with the ones `Readers.standard` gives.
-/

namespace Rebill.Settings

/-- The settings every process shares. -/
structure Telemetry where
  logLevel : String := "info"
  otlpEndpoint : Option String := none
deriving Repr, Inhabited, DecidableEq

/-- The files in the working directory: names with contents. -/
abbrev Files := List (String × String)

/-- The variables of an environment that the shared settings are read from, in their order:
those whose name starts with `APP__`, in any case. -/
def Env.shared (e : Env) : List (String × String) :=
  e.vars.filter fun (k, _) => k.toLower.startsWith "app__"

/-- The libraries the settings are read with: `dotenv` adds the variables of the working
directory's `.env` file to the environment, and `telemetry` reads the shared settings from the
configuration file and the environment, or gives the text of its refusal. The loader relies on
no more of them than the two promises that follow. -/
structure Readers where
  dotenv : Env → Files → Env
  telemetry : Env → Files → Except String Telemetry
  /-- Without a `.env` file, the environment is left as it is. -/
  dotenv_without_file : ∀ env files, files.find? (·.1 == ".env") = none → dotenv env files = env
  /-- The shared settings read only the `APP__` variables of the environment. -/
  telemetry_of_shared : ∀ env env' files, env.shared = env'.shared →
    telemetry env files = telemetry env' files

/-- Where charges, payments and methods are stored. -/
inductive StorageBackend where
  | postgres
  | memory
deriving DecidableEq, Repr, Inhabited

def StorageBackend.name : StorageBackend → String
  | .postgres => "Postgres"
  | .memory => "Memory"

/-- Which locks serialize work on one charge or payment. -/
inductive LockBackend where
  | redis
  | postgres
  | local
deriving DecidableEq, Repr, Inhabited

def LockBackend.name : LockBackend → String
  | .redis => "Redis"
  | .postgres => "Postgres"
  | .local => "Local"

/-- The settings of the service. -/
structure Config where
  telemetry : Telemetry
  serviceName : String
  serviceVersion : String
  storage : StorageBackend
  databaseUrl : String
  maxConnections : Nat
  minConnections : Nat
  lock : LockBackend
  statusTimeoutSeconds : Nat
  leaseTtlSeconds : Nat
  redisUrl : String
  paymentQueue : Option String
  scheduling : Policy
  runMigrations : Bool
deriving Repr, Inhabited

/-- The trimmed value of a setting; a blank one counts as unset. -/
def setting? (env : Env) (key : String) : Option String :=
  (env.get? key).bind fun raw =>
    let t := Rebill.Text.trimBlanks raw
    if t.isEmpty then none else some t

/-- A whole number setting of the type whose values are `[lo, hi]`. -/
def wholeSetting (env : Env) (key : String) (lo hi : Int) : Except String (Option Int) :=
  match setting? env key with
  | none => .ok none
  | some raw =>
    match readWhole lo hi raw with
    | .ok n => .ok (some n)
    | .error e => .error ("Invalid " ++ key ++ " '" ++ raw ++ "': " ++ e.text)

def flagSetting (env : Env) (key : String) : Except String (Option Bool) :=
  match setting? env key with
  | none => .ok none
  | some raw =>
    match readFlag raw with
    | .ok b => .ok (some b)
    | .error e => .error ("Invalid " ++ key ++ " '" ++ raw ++ "': " ++ e.text)

/-- A span setting in whole units: a signed 64-bit count, then the span of that many units. -/
def spanSetting (env : Env) (key : String) (unit : Int → Option Span) :
    Except String (Option Span) := do
  match ← wholeSetting env key i64Min i64Max with
  | none => pure none
  | some n =>
    match unit n with
    | some d => pure (some d)
    | none => throw (key ++ " is out of range: " ++ toString n)

/-- The version the service reports unless `SERVICE_VERSION` is set. -/
def packageVersion : String := "0.1.0"

/-- The environment variables the settings are read from. -/
def settingKeys : List String :=
  ["STORAGE_BACKEND", "LOCK_BACKEND", "DATABASE_URL", "SERVICE_NAME", "SERVICE_VERSION",
   "DATABASE_MAX_CONNECTIONS", "DATABASE_MIN_CONNECTIONS", "STATUS_LOCK_TIMEOUT_SECONDS",
   "LOCK_LEASE_TTL_SECONDS", "REDIS_URL", "PAYMENT_STATUS_QUEUE", "CHARGE_BEFORE_HOURS",
   "FAST_CHARGE_THRESHOLD_HOURS", "RECURRENT_DEFAULT_RETRIES", "CHARGE_LOOKAHEAD_MINUTES",
   "REACTIVATION_WINDOW_DAYS", "REACTIVATION_DELAY_HOURS", "RETRY_DELAY_HOURS", "RUN_MIGRATIONS",
   "APP__LOG_LEVEL", "APP__OTLP_ENDPOINT"]

/-- The settings of an environment and the files of the working directory, read with the given
libraries; a refusal is the text of a configuration error. -/
def Config.load (rd : Readers) (env : Env) (files : Files) : Except String Config := do
  let env := rd.dotenv env files
  let telemetry ← rd.telemetry env files
  let d : Policy := {}
  let storage ← match env.get? "STORAGE_BACKEND" with
    | some "memory" => pure StorageBackend.memory
    | some "postgres" | none => pure StorageBackend.postgres
    | some other => throw ("Unknown STORAGE_BACKEND '" ++ other ++ "'")
  let lock ← match env.get? "LOCK_BACKEND" with
    | some "redis" => pure LockBackend.redis
    | some "postgres" => pure LockBackend.postgres
    | some "local" | none => pure LockBackend.local
    | some other => throw ("Unknown LOCK_BACKEND '" ++ other ++ "'")
  let databaseUrl ← match env.get? "DATABASE_URL", storage with
    | some url, _ => pure url
    | none, .memory => pure ""
    | none, .postgres => throw "DATABASE_URL is required"
  if lock = .postgres ∧ storage ≠ .postgres then
    throw "LOCK_BACKEND=postgres requires STORAGE_BACKEND=postgres"
  let maxConnections := (← wholeSetting env "DATABASE_MAX_CONNECTIONS" 0 u32Max).getD 10
  let minConnections := (← wholeSetting env "DATABASE_MIN_CONNECTIONS" 0 u32Max).getD 2
  let statusTimeout := (← wholeSetting env "STATUS_LOCK_TIMEOUT_SECONDS" 0 u64Max).getD 10
  let leaseTtl := (← wholeSetting env "LOCK_LEASE_TTL_SECONDS" 0 u64Max).getD 60
  let chargeBeforeHours ← wholeSetting env "CHARGE_BEFORE_HOURS" i64Min i64Max
  let fast := (← spanSetting env "FAST_CHARGE_THRESHOLD_HOURS" Span.ofHours?).getD
    d.fastChargeThreshold
  let retries := (← wholeSetting env "RECURRENT_DEFAULT_RETRIES" i32Min i32Max).getD
    d.defaultRetries
  let lookahead := (← spanSetting env "CHARGE_LOOKAHEAD_MINUTES" Span.ofMinutes?).getD d.lookahead
  let window := (← spanSetting env "REACTIVATION_WINDOW_DAYS" Span.ofDays?).getD
    d.reactivationWindow
  let delay := (← spanSetting env "REACTIVATION_DELAY_HOURS" Span.ofHours?).getD
    d.reactivationDelay
  let retryDelay := (← spanSetting env "RETRY_DELAY_HOURS" Span.ofHours?).getD d.retryDelay
  let runMigrations := (← flagSetting env "RUN_MIGRATIONS").getD true
  pure {
    telemetry
    serviceName := (env.get? "SERVICE_NAME").getD "recurrent-billing"
    serviceVersion := (env.get? "SERVICE_VERSION").getD packageVersion
    storage, databaseUrl
    maxConnections := maxConnections.toNat
    minConnections := minConnections.toNat
    lock
    statusTimeoutSeconds := statusTimeout.toNat
    leaseTtlSeconds := leaseTtl.toNat
    redisUrl := (env.get? "REDIS_URL").getD "redis://localhost:6379"
    paymentQueue := env.get? "PAYMENT_STATUS_QUEUE"
    scheduling := { chargeBeforeHours, fastChargeThreshold := fast, defaultRetries := retries,
                    lookahead, reactivationWindow := window, reactivationDelay := delay,
                    retryDelay, lockTimeoutMs := statusTimeout.toNat * 1000 }
    runMigrations }

end Rebill.Settings
