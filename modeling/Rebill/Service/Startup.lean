import Rebill.Settings.Load
import Rebill.Connection.Targets
import Rebill.Backend.Failure
import Rebill.Cli.Filter
import Rebill.Json.Value

/-!
# Starting the service

Starting the service builds its backends from its settings, in order: storage, then locks, then
the queue of status messages. Every backend but memory storage and local locks is reached over
a connection string, and a string that does not read fails the start there, before anything
else is built:

* a PostgreSQL string that does not read is a database fault `Failed to connect: ...`; the
  parameters its driver ignores on the way are logged as warnings first;
* a Redis string for the locks is a cache fault, and one for the queue an internal fault;
* PostgreSQL locks without PostgreSQL storage are refused as a configuration fault.

Each step logs what it does. A start whose strings all read would connect; `connects` says so,
and the model stops short of it.
-/

namespace Rebill

open Rebill.Connection Rebill.Cli

/-- A line of the log: its level, target, the spans it is in (the outermost first), its message
and its fields. -/
structure LogLine where
  level : Level
  target : String
  spans : List SpanSite := []
  message : String
  fields : List (String × Json) := []
deriving Inhabited

/-- The names of a line's fields, its message among them, as a filter sees them. -/
def LogLine.fieldNames (l : LogLine) : List String := "message" :: l.fields.map (·.1)

/-- How a start ends: the lines it logged, and the error that stopped it, if one did. -/
structure Start where
  logs : List LogLine := []
  failure : Option BillingError := none
deriving Inhabited

namespace Settings

/-- Whether a start with these settings would connect to a database or to Redis: storage,
locks or a queue whose connection string reads. -/
def Config.connects (s : Config) : Bool :=
  (s.storage == .postgres && (checkPostgres s.databaseUrl).toBool) ||
  ((s.lock == .redis || s.paymentQueue.isSome) && (checkRedis s.redisUrl).toBool)

def databaseTarget : String := "recurrent_billing::services::database"

/-- The span of connecting to the database: the pool's bounds and the service's name. -/
def Config.connectingSpan (s : Config) : SpanSite :=
  { name := "new", target := databaseTarget,
    fields := [("max_connections", .unsigned s.maxConnections),
               ("min_connections", .unsigned s.minConnections),
               ("service", .text "recurrent-billing")] }

def startupTarget : String := "recurrent_billing::startup"

/-- Starts the service's backends from its settings, up to the first failure. -/
def Config.start (s : Config) : Start :=
  let storage : Start := match s.storage with
    | .postgres =>
      let connecting : LogLine :=
        { level := .info, target := databaseTarget, spans := [s.connectingSpan],
          message := "Connecting to PostgreSQL",
          fields := [("max_connections", .number (.whole s.maxConnections)),
                     ("min_connections", .number (.whole s.minConnections))] }
      let (ignored, read) := readPostgres s.databaseUrl
      let warnings := ignored.map fun (k, v) =>
        ({ level := .warn, target := "sqlx_postgres::options::parse", spans := [s.connectingSpan],
           message := "ignoring unrecognized connect parameter",
           fields := [("key", .string k), ("value", .string v)] } : LogLine)
      match read with
      | .error e =>
        let f := Fault.database ("Failed to connect: " ++ e)
        let failed : LogLine :=
          { level := .error, target := startupTarget, message := "Failed to connect to PostgreSQL",
            fields := [("error", .string f.text)] }
        { logs := connecting :: warnings ++ [failed], failure := some (.storage f) }
      | .ok () => { logs := connecting :: warnings }
    | .memory =>
      { logs := [{ level := .warn, target := startupTarget,
                   message := "Using in-memory storage, state is lost on exit" }] }
  if storage.failure.isSome then storage
  else
    let locks : Start := match s.lock, s.storage with
      | .redis, _ =>
        let connecting : LogLine :=
          { level := .info, target := "recurrent_billing::services::lock",
            message := "Connecting to Redis for advisory locks" }
        match checkRedis s.redisUrl with
        | .error e => { logs := [connecting], failure := some (.storage (.cache e)) }
        | .ok () => { logs := [connecting] }
      | .postgres, .memory =>
        { failure := some (.storage (.config "PostgreSQL locks need PostgreSQL storage")) }
      | _, _ => {}
    let sofar : Start := { logs := storage.logs ++ locks.logs, failure := locks.failure }
    if sofar.failure.isSome then sofar
    else match s.paymentQueue with
      | some q =>
        let connecting : LogLine :=
          { level := .info, target := "recurrent_billing::services::events",
            message := "Connecting to Redis message queue", fields := [("queue", .string q)] }
        match checkRedis s.redisUrl with
        | .error e => { logs := sofar.logs ++ [connecting], failure := some (.storage (.internal e)) }
        | .ok () => { logs := sofar.logs ++ [connecting] }
      | none => sofar

end Settings

end Rebill
