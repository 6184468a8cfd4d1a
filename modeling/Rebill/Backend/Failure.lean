import Rebill.Error

/-!
# Failures of the backends

Storage is a PostgreSQL database, locks and queues may live in Redis, and the schema comes from
migrations. Each backend fails in its own ways, and each failure becomes a `Fault`:

* a database failure is a database fault, except that a missing row is a fault of something not
  found and a broken unique constraint a conflict;
* a Redis failure is a cache fault, whatever its kind;
* a migration failure is a database fault, `Migration failed: ...`.

So a failure of a backend is a fault of the infrastructure exactly when it is not a missing row
or a conflict.
-/

namespace Rebill

/-- A failure reported by the database driver. -/
inductive DatabaseFailure where
  | rowNotFound
  | poolTimedOut
  | poolClosed
  | workerCrashed
  | protocol (detail : String)
  | columnNotFound (name : String)
  | configuration (detail : String)
  | io (detail : String)
  | database (message : String) (unique : Bool)
deriving DecidableEq, Repr, Inhabited

def DatabaseFailure.text : DatabaseFailure → String
  | .rowNotFound => "no rows returned by a query that expected to return at least one row"
  | .poolTimedOut => "pool timed out while waiting for an open connection"
  | .poolClosed => "attempted to acquire a connection on a closed pool"
  | .workerCrashed => "attempted to communicate with a crashed background worker"
  | .protocol d => "encountered unexpected or invalid data: " ++ d
  | .columnNotFound n => "no column found for name: " ++ n
  | .configuration d => "error with configuration: " ++ d
  | .io d => "error communicating with database: " ++ d
  | .database m _ => "error returned from database: " ++ m

def Fault.ofDatabase : DatabaseFailure → Fault
  | .rowNotFound => .notFound "Row not found"
  | f@(.database _ true) => .conflict f.text
  | f => .database f.text

/-- The kinds of Redis failures. -/
inductive CacheErrorKind where
  | response
  | authentication
  | type
  | io
  | clientConfig
  | client
  | busyLoading
deriving DecidableEq, Repr, Inhabited

def CacheErrorKind.name : CacheErrorKind → String
  | .response => "ResponseError"
  | .authentication => "AuthenticationFailed"
  | .type => "TypeError"
  | .io => "IoError"
  | .clientConfig => "InvalidClientConfig"
  | .client => "ClientError"
  | .busyLoading => "BusyLoadingError"

/-- A failure reported by the Redis client: its kind, a description and maybe a detail. -/
structure CacheFailure where
  kind : CacheErrorKind
  description : String
  detail : Option String := none
deriving DecidableEq, Repr, Inhabited

/-- The text of a Redis failure: `description- Kind`, or `description - Kind: detail`. -/
def CacheFailure.text (f : CacheFailure) : String :=
  match f.detail with
  | none => f.description ++ "- " ++ f.kind.name
  | some d => f.description ++ " - " ++ f.kind.name ++ ": " ++ d

def Fault.ofCache (f : CacheFailure) : Fault := .cache f.text

/-- A failure of the schema migrations, for a migration version. -/
inductive MigrationFailure where
  | missing (version : Int)
  | dirty (version : Int)
  | mismatch (version : Int)
deriving DecidableEq, Repr, Inhabited

def MigrationFailure.text : MigrationFailure → String
  | .missing v => "migration " ++ toString v ++
      " was previously applied but is missing in the resolved migrations"
  | .dirty v => "migration " ++ toString v ++
      " is partially applied; fix and remove row from `_sqlx_migrations` table"
  | .mismatch v => "migration " ++ toString v ++ " was previously applied but has been modified"

def Fault.ofMigration (f : MigrationFailure) : Fault := .database ("Migration failed: " ++ f.text)

end Rebill
