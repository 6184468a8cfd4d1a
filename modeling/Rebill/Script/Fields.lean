import Rebill.Json.Value
import Rebill.Error
import Rebill.Decimal
import Rebill.Time.Reading
import Rebill.Time.Overflow
import Rebill.Payment.Status

/-!
# Fields of script commands

A command of a script is a JSON object. The readers here take one field of it, where `null` is
the same as a missing field, and refuse a field of the wrong type or text with a `Refusal` of
bad input that names the field. A `Refusal` is also how a command reports an error of the engine
or a fault, and how a stop of the program ends the script; `Refusal.kind` and `Refusal.text` are what the
answer shows.
-/

namespace Rebill.Script

/-- Why a command gives no value. -/
inductive Refusal where
  /-- The command itself is malformed. -/
  | badInput (message : String)
  /-- The engine reported an error. -/
  | billing (e : BillingError)
  /-- Configuration or setup reported a fault. -/
  | fault (f : Fault)
  /-- The program stopped: time arithmetic overflowed, or a reader met input it has no answer
  for; the script stops. -/
  | halt (message : String)
deriving Repr, Inhabited

def Fault.kindName : Fault → String
  | .badRequest _ => "BadRequest"
  | .notFound _ => "NotFound"
  | .conflict _ => "Conflict"
  | .internal _ => "InternalError"
  | .unavailable => "ServiceUnavailable"
  | .database _ => "DatabaseError"
  | .cache _ => "RedisError"
  | .serialization _ => "SerializationError"
  | .config _ => "ConfigError"

def BillingError.kindName : BillingError → String
  | .invalidSchedule _ => "InvalidSchedule"
  | .illegalTransition _ _ => "IllegalTransition"
  | .reactivationUnavailable _ => "ReactivationUnavailable"
  | .lockTimeout _ _ => "LockTimeout"
  | .notFound _ => "NotFound"
  | .gateway _ => "Gateway"
  | .storage f => "Storage." ++ Fault.kindName f

namespace Refusal

def kind : Refusal → String
  | .badInput _ => "bad_input"
  | .billing e => BillingError.kindName e
  | .fault f => "AppError." ++ Fault.kindName f
  | .halt _ => "panic"

def text : Refusal → String
  | .badInput m => m
  | .billing e => e.text
  | .fault f => f.text
  | .halt m => m

end Refusal

abbrev Reading := Except Refusal

def bad {α : Type} (m : String) : Reading α := .error (.badInput m)

def field? (o : Json) (k : String) : Option Json :=
  match o.field? k with
  | some .null => none
  | v => v

def optString (o : Json) (k : String) : Reading (Option String) :=
  match field? o k with
  | none => pure none
  | some (.string s) => pure (some s)
  | some _ => bad ("field '" ++ k ++ "' must be a string")

def reqString (o : Json) (k : String) : Reading String := do
  match ← optString o k with
  | some s => pure s
  | none => bad ("missing field '" ++ k ++ "'")

def stringOr (o : Json) (k d : String) : Reading String := do
  return (← optString o k).getD d

def optBool (o : Json) (k : String) : Reading (Option Bool) :=
  match field? o k with
  | none => pure none
  | some (.bool b) => pure (some b)
  | some _ => bad ("field '" ++ k ++ "' must be a boolean")

def boolOr (o : Json) (k : String) (d : Bool) : Reading Bool := do
  return (← optBool o k).getD d

/-- The integer of a JSON number, when it is one within the bounds. -/
def integerWithin (v : Json) (lo hi : Int) : Option Int :=
  match v with
  | .number (.whole n) => if lo ≤ n ∧ n ≤ hi then some n else none
  | _ => none

/-- A field holding a signed 64-bit integer, when present. -/
def optInt64 (o : Json) (k : String) : Reading (Option Int) :=
  match field? o k with
  | none => pure none
  | some v => match integerWithin v (-Int.pow 2 63) (Int.pow 2 63 - 1) with
    | some i => pure (some i)
    | none => bad ("field '" ++ k ++ "' must be a 64-bit integer")

/-- A field holding a signed 32-bit integer, when present: it is read as a signed 64-bit
integer, then checked against the narrower bounds. -/
def optInt32 (o : Json) (k : String) : Reading (Option Int) := do
  match ← optInt64 o k with
  | none => pure none
  | some i =>
    if -Int.pow 2 31 ≤ i ∧ i ≤ Int.pow 2 31 - 1 then pure (some i)
    else bad ("field '" ++ k ++ "' must be a 32-bit integer")

/-- A field holding an unsigned 64-bit integer, when present. -/
def optUInt64 (o : Json) (k : String) : Reading (Option Nat) :=
  match field? o k with
  | none => pure none
  | some v => match integerWithin v 0 (Int.pow 2 64 - 1) with
    | some i => pure (some i.toNat)
    | none => bad ("field '" ++ k ++ "' must be an unsigned 64-bit integer")

def instantOf (s : String) : Reading Instant :=
  match readInstant s with
  | .ok t => pure t
  | .error e => bad ("bad time '" ++ s ++ "': " ++ e.message)

def optInstant (o : Json) (k : String) : Reading (Option Instant) := do
  match ← optString o k with
  | some s => some <$> instantOf s
  | none => pure none

def reqInstant (o : Json) (k : String) : Reading Instant := do
  instantOf (← reqString o k)

def decimalOf (s : String) : Reading Decimal :=
  match Decimal.read s with
  | .ok d => pure d
  | .error e => bad ("bad decimal '" ++ s ++ "': " ++ e.message)

def optDecimal (o : Json) (k : String) : Reading (Option Decimal) := do
  match ← optString o k with
  | some s => some <$> decimalOf s
  | none => pure none

def dateOf (s : String) : Reading Date :=
  match readDate s with
  | .ok d => pure d
  | .error e => bad ("bad date '" ++ s ++ "': " ++ e.message)

def statusOf (s : String) : Reading PaymentStatus :=
  match PaymentStatus.ofName? s with
  | some st => pure st
  | none => bad ("unknown payment status '" ++ s ++ "'")

def stateOf (s : String) : Reading ChargeState :=
  match ChargeState.ofName? s with
  | some st => pure st
  | none => bad ("unknown charge state '" ++ s ++ "'")

def actorOf (s : String) : Reading Actor :=
  match Actor.ofName? s with
  | some a => pure a
  | none => bad ("unknown actor '" ++ s ++ "'")

def optList (o : Json) (k : String) : Reading (Option (List Json)) :=
  match field? o k with
  | none => pure none
  | some (.array items) => pure (some items)
  | some _ => bad ("'" ++ k ++ "' must be a list")

def optObject (o : Json) (k : String) : Reading (Option (List (String × Json))) :=
  match field? o k with
  | none => pure none
  | some (.object fs) => pure (some fs)
  | some _ => bad ("field '" ++ k ++ "' must be an object")

end Rebill.Script
