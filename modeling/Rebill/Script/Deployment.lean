import Rebill.Script.Session
import Rebill.Cli.Program

/-!
# Script commands about deployment

These commands read settings the way a deployed process does, from an environment and the files
of its working directory, and run the charging command:

* `config_from_env` loads the service's settings and shows them;
* `core_config` shows the shared settings' defaults and what loads;
* `cli` runs the charging command. A run that would reach a database, Redis or a trace
  collector is refused, since a script has none of them.

An environment in a command holds only the configuration keys (and `RUST_LOG` for `cli`), each
with a text value; its keys are taken in sorted order. Files are `.env` and the configuration
files.

A line with `build_env` builds its engine from settings instead of from its own knobs;
`deployedSession` is that setup.
-/

namespace Rebill.Script

open Rebill.Settings Rebill.Cli

/-- The environment a field gives, over the allowed keys, its keys taken in sorted order. -/
def envField (o : Json) (k : String) (allowed : List String) : Reading Env := do
  let fields ← match field? o k with
    | none => pure []
    | some (.object fs) => pure (fs.mergeSort fun a b => decide (a.1 ≤ b.1))
    | some _ => bad "'env' must be an object"
  fields.foldlM (fun env (key, v) => do
    if !allowed.contains key then bad ("unsupported env key '" ++ key ++ "'")
    match v with
    | .string s =>
      if s.contains '\x00' then bad "env value contains NUL"
      pure (env.set key s)
    | _ => bad "env values must be strings") {}

/-- Whether a file may stand in a script's working directory. -/
def isSettingsFile (name : String) : Bool :=
  name == ".env" || configurationNames.any (·.1 == name)

def filesField (o : Json) : Reading Files := do
  let fields ← match field? o "files" with
    | none => pure []
    | some (.object fs) => pure fs
    | some _ => bad "'files' must be an object"
  fields.mapM fun (name, v) => do
    if !isSettingsFile name then bad ("unsupported file name '" ++ name ++ "'")
    match v with
    | .string s => pure (name, s)
    | _ => bad "file contents must be strings"

def ofSpan (d : Span) : Json := ofInt d.seconds

def ofTelemetry (t : Telemetry) : Json :=
  .object [("log_level", ofText t.logLevel), ("otlp_endpoint", ofOption ofText t.otlpEndpoint)]

def ofSettings (s : Config) : Json :=
  let p := s.scheduling
  .object [
    ("log_level", ofText s.telemetry.logLevel),
    ("otlp_endpoint", ofOption ofText s.telemetry.otlpEndpoint),
    ("service_name", ofText s.serviceName),
    ("service_version", ofText s.serviceVersion),
    ("storage", ofText s.storage.name),
    ("lock_backend", ofText s.lock.name),
    ("database_url", ofText s.databaseUrl),
    ("database_max_connections", ofInt s.maxConnections),
    ("database_min_connections", ofInt s.minConnections),
    ("status_lock_timeout_s", ofInt s.statusTimeoutSeconds),
    ("lock_lease_ttl_s", ofInt s.leaseTtlSeconds),
    ("redis_url", ofText s.redisUrl),
    ("payment_queue", ofOption ofText s.paymentQueue),
    ("charge_before_hours", ofOption ofInt p.chargeBeforeHours),
    ("fast_charge_threshold_s", ofSpan p.fastChargeThreshold),
    ("default_retries", ofInt p.defaultRetries),
    ("lookahead_s", ofSpan p.lookahead),
    ("reactivation_window_s", ofSpan p.reactivationWindow),
    ("reactivation_delay_s", ofSpan p.reactivationDelay),
    ("retry_delay_s", ofSpan p.retryDelay),
    ("run_migrations", .bool s.runMigrations)]

/-- A log line as an answer shows it: its level, message and fields. -/
def ofLogLine (l : LogLine) : Json :=
  .object ([("level", ofText l.level.name), ("message", ofText l.message)] ++ l.fields)

/-- A run of the charging command as an answer shows it. -/
def ofOutcome (r : Outcome) : Json :=
  .object [("exit", ofInt r.exit), ("logs", .array (r.logs.map ofLogLine)),
           ("stderr", ofText r.stderr), ("stdout", .array (r.stdout.map ofText))]

def argsField (o : Json) : Reading (List String) := do
  let items := (← optList o "args").getD []
  items.mapM fun v => match v with
    | .string s => pure s
    | _ => bad "args must be strings"

/-- The text that stands for a run's duration in answers, which cannot show a real clock. -/
def elapsedMark : String := "<elapsed>"

def deploymentCommand (op : String) (o : Json) : Option (Step Json) :=
  match op with
  | "config_from_env" => some do
    let env ← Step.read (envField o "env" settingKeys)
    let files ← Step.read (filesField o)
    if let some m := configurationStop? env files then throw (.halt m)
    match Config.load .standard env files with
    | .ok s => pure (ofSettings s)
    | .error e => throw (.fault (.config e))
  | "core_config" => some do
    let env ← Step.read (envField o "env" settingKeys)
    let files ← Step.read (filesField o)
    if let some m := configurationStop? env files then throw (.halt m)
    let load := match Readers.standard.telemetry (Readers.standard.dotenv env files) files with
      | .ok t => ofTelemetry t
      | .error e =>
        .object [("error", ofText "AppError.ConfigError"), ("message", ofText (Fault.config e).text)]
    pure (.object [("default", ofTelemetry {}), ("load", load)])
  | "cli" => some do
    let args ← Step.read (argsField o)
    let env ← Step.read (envField o "env" (settingKeys ++ ["RUST_LOG"]))
    let files ← Step.read (filesField o)
    let inv : Invocation := { args, env, files }
    if inv.reachesOut then throw (.badInput "cli env would reach a database, Redis or a collector")
    pure (ofOutcome (inv.run elapsedMark))
  | _ => none

def lockOverride (s : String) : Reading LockBackend :=
  match s with
  | "local" => pure .local
  | "redis" => pure .redis
  | "postgres" => pure .postgres
  | _ => bad ("unknown lock backend '" ++ s ++ "'")

/-- The settings a line with `build_env` builds its engine from: loaded from its environment and
files, with the lock backend its override names. A start that would connect is refused; a start
that fails is the line's refusal. -/
def deployedSettings (line : Json) : Reading Config := do
  let env ← envField line "build_env" settingKeys
  let files ← filesField line
  if let some m := configurationStop? env files then throw (.halt m)
  let s ← match Config.load .standard env files with
    | .ok s => pure s
    | .error e => throw (.fault (.config e))
  let s ← match ← optString line "build_lock_override" with
    | some name => pure { s with lock := ← lockOverride name }
    | none => pure s
  if s.connects then bad "build_env needs memory storage, local locks and no queue"
  match s.start.failure with
  | some e => throw (.billing e)
  | none => pure s

end Rebill.Script
