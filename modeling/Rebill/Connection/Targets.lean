import Rebill.Connection.Url
import Rebill.Text.Quoted

/-!
# PostgreSQL and Redis connection strings

Before the service connects anywhere it reads its connection strings, and a string that does not
read fails the start without any connection:

* a PostgreSQL string must be a URL; the user, the password, the database name and a socket
  path host are percent-decoded and must be UTF-8; the parameters `sslmode`,
  `statement-cache-capacity`, `hostaddr` and `port` must read. A refusal is
  `error with configuration: reason`. A parameter the driver does not know is ignored, with a
  warning, in the order the parameters come.
* a Redis string must be a URL of scheme `redis`, `rediss`, `redis+unix` or `unix`. A TCP one
  needs a host, cannot use TLS, and its path is a database number; a socket one needs a local
  path, and its database number is the last `db` parameter. A refusal is
  `reason- InvalidClientConfig`.

A string that reads is one the service would connect with.
-/

namespace Rebill.Connection

/-- The pairs of a query: `&`-separated, each split at its first `=`, with `+` for a blank and
percent escapes decoded, bad UTF-8 replaced. -/
def queryPairs (q : String) : List (String × String) :=
  let decode := fun (cs : List Char) =>
    lossyText (percentDecode (String.ofList (cs.map fun c => if c = '+' then ' ' else c)))
  (q.toList.splitOn '&').filterMap fun part =>
    if part.isEmpty then none
    else
      let k := part.takeWhile (· ≠ '=')
      some (decode k, decode ((part.drop k.length).drop 1))

/-- The modes of TLS use a PostgreSQL string may ask for. -/
def sslModes : List String := ["disable", "allow", "prefer", "require", "verify-ca", "verify-full"]

def ipAddress (s : String) : Bool :=
  let cs := s.toList
  let parts := cs.splitOn '.'
  (parts.length = 4 ∧ parts.all fun p => !p.isEmpty ∧ p.length ≤ 3 ∧ p.all Char.isDigit ∧
      (p.foldl (fun acc c => acc * 10 + (c.toNat - '0'.toNat)) 0) < 256 ∧
      !(p.length > 1 ∧ p.head? = some '0')) ∨ ipv6Valid cs

/-- The parameters of a PostgreSQL string the driver knows; any other is ignored. -/
def knownParameters : List String :=
  ["sslmode", "ssl-mode", "sslrootcert", "ssl-root-cert", "ssl-ca", "sslcert", "ssl-cert",
   "sslkey", "ssl-key", "statement-cache-capacity", "host", "hostaddr", "port", "dbname", "user",
   "password", "application_name", "options"]

/-- Whether the driver knows a parameter: one of `knownParameters`, or `options[...]`. -/
def isKnownParameter (k : String) : Bool :=
  knownParameters.contains k || k.startsWith "options["

def checkParameter (k v : String) : Except String Unit :=
  let config := fun (m : String) => "error with configuration: " ++ m
  if k = "sslmode" ∨ k = "ssl-mode" then
    if !sslModes.contains v.toLower then
      .error (config (config ("unknown value " ++ Text.debugQuote v ++ " for `ssl_mode`")))
    else .ok ()
  else if k = "statement-cache-capacity" then
    match Rebill.Settings.readWhole 0 Rebill.Settings.u64Max v with
    | .ok _ => .ok ()
    | .error e => .error (config e.text)
  else if k = "hostaddr" then
    if !ipAddress v then .error (config "invalid IP address syntax") else .ok ()
  else if k = "port" then
    match Rebill.Settings.readWhole 0 65535 v with
    | .ok _ => .ok ()
    | .error e => .error (config e.text)
  else .ok ()

/-- Checks the parameters of a PostgreSQL string in order: the unknown ones seen before the
first refusal, and that refusal. -/
def checkParameters : List (String × String) → List (String × String) × Except String Unit
  | [] => ([], .ok ())
  | (k, v) :: rest =>
    if !isKnownParameter k then
      let (ignored, r) := checkParameters rest
      ((k, v) :: ignored, r)
    else
      match checkParameter k v with
      | .error e => ([], .error e)
      | .ok () => checkParameters rest

/-- Reads a PostgreSQL connection string: the parameters the driver ignores, with their values,
up to the first refusal, and the refusal, if any, as the driver's error text. -/
def readPostgres (text : String) : List (String × String) × Except String Unit :=
  let config := fun (m : String) => "error with configuration: " ++ m
  let head : Except String (List (String × String)) := do
    let url ← match Url.read text with
      | .ok u => pure u
      | .error e => throw (config e.text)
    match url.host with
    | some h =>
      if (percentDecode h).head? = some '/'.toNat then
        (decodedUtf8 h).mapError config
    | none => pure ()
    if !url.username.isEmpty then (decodedUtf8 url.username).mapError config
    match url.password with
    | some p => (decodedUtf8 p).mapError config
    | none => pure ()
    let database := String.ofList (url.path.toList.dropWhile (· = '/'))
    if !database.isEmpty then (decodedUtf8 database).mapError config
    pure (queryPairs (url.query.getD ""))
  match head with
  | .error e => ([], .error e)
  | .ok pairs => checkParameters pairs

/-- Reads a PostgreSQL connection string; a refusal is the driver's error text. -/
def checkPostgres (text : String) : Except String Unit := (readPostgres text).2

def redisRefusal (reason : String) : String := reason ++ "- InvalidClientConfig"

/-- Reads a Redis connection string; a refusal is the client's error text. -/
def checkRedis (text : String) : Except String Unit := do
  let url ← match Url.read text with
    | .ok u =>
      if ["redis", "rediss", "redis+unix", "unix"].contains u.scheme then pure u
      else throw (redisRefusal "Redis URL did not parse")
    | .error _ => throw (redisRefusal "Redis URL did not parse")
  let number := fun (s : String) => match Rebill.Settings.readWhole Rebill.Settings.i64Min
      Rebill.Settings.i64Max s with
    | .ok _ => true
    | .error _ => false
  if url.scheme = "redis" ∨ url.scheme = "rediss" then
    if url.host.isNone then throw (redisRefusal "Missing hostname")
    if url.scheme = "rediss" then
      throw (redisRefusal "can't connect with TLS, the feature is not enabled")
    let db := String.ofList ((url.path.toList.dropWhile (· = '/')).reverse.dropWhile (· = '/')).reverse
    if !db.isEmpty ∧ !number db then throw (redisRefusal "Invalid database number")
    if !url.username.isEmpty then
      match decodedUtf8 url.username with
      | .error _ => throw (redisRefusal "Username is not valid UTF-8 string")
      | .ok () => pure ()
    match url.password with
    | some p =>
      match decodedUtf8 p with
      | .error _ => throw (redisRefusal "Password is not valid UTF-8 string")
      | .ok () => pure ()
    | none => pure ()
  else
    let local_ := url.host.isNone ∨ url.host = some "localhost"
    if !local_ ∨ !url.path.startsWith "/" then throw (redisRefusal "Missing path")
    match ((queryPairs (url.query.getD "")).filter (·.1 == "db")).getLast? with
    | some (_, v) => if !number v then throw (redisRefusal "Invalid database number")
    | none => pure ()

end Rebill.Connection
