import Rebill.Script.Queries
import Rebill.Script.Deployment
import Rebill.Script.Faults
import Rebill.Json.Reader
import Rebill.Json.Writer

/-!
# Running a script line

A line of script is a JSON object: the starting instant, the scheduling knobs, the gateways, the
outlets of events, and the list of commands. `answerLine` runs the commands in order and answers
each with its value or refusal, together with the events, messages, gateway calls and counters of
that command; then the final snapshot. An overflow of time arithmetic stops the line: its command
answers `panic` and there is no snapshot. At the very end every identifier written in the answer
is replaced by its name.

A line that cannot be set up is answered by one refusal.
-/

namespace Rebill.Script

open Step

/-- The instant a line starts at when it names none: 2024-01-01T00:00:00Z. -/
def defaultStart : Instant := Instant.ofDate ⟨2024, 1, 1⟩

def startOf (s : String) : Reading Instant := do
  let t ← instantOf s
  if t < Instant.epoch then bad "now must not precede 1970-01-01T00:00:00Z"
  pure t

/-- A span field in whole seconds, within the bounds of spans. -/
def spanField (o : Json) (k : String) (dflt : Span) : Reading Span := do
  match ← optInt64 o k with
  | none => pure dflt
  | some s => match Span.ofSeconds? s with
    | some d => pure d
    | none => bad ("field '" ++ k ++ "' out of range")

def policyOf (o : Json) : Reading Policy := do
  let d : Policy := {}
  let ms ← optInt64 o "lock_timeout_ms"
  let ms ← match ms with
    | none => pure d.lockTimeoutMs
    | some m => if (0 ≤ m ∧ m ≤ 2000) ∨ m = 10000 then pure m.toNat
                else bad "lock_timeout_ms must be within 0..=2000 or 10000"
  pure { chargeBeforeHours := ← optInt64 o "charge_before_hours",
         fastChargeThreshold := ← spanField o "fast_charge_threshold_s" d.fastChargeThreshold,
         defaultRetries := (← optInt32 o "default_retries").getD d.defaultRetries,
         lookahead := ← spanField o "lookahead_s" d.lookahead,
         reactivationWindow := ← spanField o "reactivation_window_s" d.reactivationWindow,
         reactivationDelay := ← spanField o "reactivation_delay_s" d.reactivationDelay,
         retryDelay := ← spanField o "retry_delay_s" d.retryDelay,
         lockTimeoutMs := ms }

def sinkOf (s : String) : Reading SinkKind :=
  match s with
  | "recording" => pure .recording
  | "tracing" => pure .tracing
  | "broadcast" => pure .broadcast
  | "broadcast_unsubscribed" => pure .unheard
  | _ => bad ("unknown sink '" ++ s ++ "'")

/-- The gateways of a line: the manual one first when asked for, then the scripted ones. -/
def gatewaysOf (line : Json) (manual : Bool) : Reading (GatewayRegistry × List String) := do
  let specs := (← optList line "gateways").getD [.object [("id", .string "test")]]
  let start : GatewayRegistry := if manual then GatewayRegistry.register {} Gateway.manual else {}
  specs.foldlM (fun (reg, plain) spec => do
    let (g, isPlain) ← gatewayOf spec
    pure (reg.register g, if isPlain then plain ++ [g.id] else plain.filter (· != g.id)))
    (start, [])

/-- The session a line starts with, its fields read in this order: `now`, `config`, `manual`,
the two failure flags, `sink`, `gateways`, and then the deployment. A line with `build_env` takes
its scheduling from settings, reports to the log only, and has no handle on the store or the
locks. -/
def sessionOf (line : Json) : Reading Session := do
  let now ← startOf (← stringOr line "now" "2024-01-01T00:00:00Z")
  let policy ← policyOf ((field? line "config").getD (.object []))
  let manual ← boolOr line "manual" true
  let eventsFail ← boolOr line "fail_events" false
  let queueFails ← boolOr line "fail_queue" false
  let sink ← sinkOf (← stringOr line "sink" "recording")
  let (gateways, plain) ← gatewaysOf line manual
  if (field? line "build_env").isSome then
    let s ← deployedSettings line
    return { engine := { now, policy := s.scheduling, gateways, outlets := { sink := .tracing } },
             fromSettings := true, plainGateways := plain }
  let outlets : Outlets := { sink, eventsFail, queueFails }
  pure { engine := { now, policy, gateways, outlets }, plainGateways := plain }

/-- Runs one command, after moving the clock to its `now`. -/
def command (o : Json) : Step Json := do
  match ← read (optString o "now") with
  | some s =>
    let t ← read (startOf s)
    modify fun st => { st with engine := { st.engine with now := t } }
  | none => pure ()
  -- a name for what the command makes must be text before anything is made
  let _ ← read (optString o "as")
  let op := match o.field? "op" with
    | some (.string s) => s
    | _ => ""
  match engineCommand op o with
  | some act => act
  | none => match queryCommand op o with
    | some act => act
    | none => match deploymentCommand op o with
      | some act => act
      | none => match faultCommand op o with
        | some act => act
        | none => throw (.badInput ("unknown op '" ++ op ++ "'"))

/-- The answer of a command: its value or refusal, and what it announced, charged and counted. -/
def stepJson (r : Except Refusal Json) (j : Journal) : Json :=
  let head := match r with
    | .ok v => [("ok", v)]
    | .error e => [("error", ofText e.kind), ("message", ofText e.text)]
  let extra :=
    (if j.events.isEmpty then [] else [("events", Json.array (j.events.map ofEvent))]) ++
    (if j.messages.isEmpty then [] else [("messages", Json.array (j.messages.map ofMessage))]) ++
    (if j.calls.isEmpty then [] else [("calls", Json.array (j.calls.map ofCall))]) ++
    (let cs := j.counters.filter (·.2 != 0)
     if cs.isEmpty then [] else [("metrics", Json.object (cs.map fun (c, n) => (c.key, ofInt n)))])
  .object (head ++ extra)

/-- Runs the commands in order; the answers, and whether an overflow stopped them. -/
def runCommands : List Json → Session → List Json → List Json × Session × Bool
  | [], s, acc => (acc.reverse, s, false)
  | o :: rest, s, acc =>
    let s := { s with engine := { s.engine with journal := {} } }
    let (r, s) := ((command o).run).run s
    let j := s.engine.journal
    match r with
    | .error (.halt ov) => ((stepJson (.error (.halt ov)) j :: acc).reverse, s, true)
    | _ =>
      let (_, s) := (discover.run).run s
      runCommands rest s (stepJson r j :: acc)

def refusalJson (e : Refusal) : Json := .object [("error", ofText e.kind), ("message", ofText e.text)]

def answerJson (line : Json) : Json :=
  let setup : Reading (Session × List Json) := do
    if !(line matches .object _) then bad "line must be a JSON object"
    let s ← sessionOf line
    let ops := (← optList line "ops").getD []
    pure (s, ops)
  match setup with
  | .error e => refusalJson e
  | .ok (s, ops) =>
    let (steps, s, halted) := runCommands ops s []
    let final := if halted then Json.null else (((snapshot.run).run s).1.toOption.getD .null)
    (s.names.rename (Json.sorted (.object [("steps", .array steps), ("final", final)]))).1

/-- Answers one line of text. -/
def answerLine (text : String) : String :=
  match readJson text with
  | .ok line => (answerJson line).compact
  | .error e => (refusalJson (.badInput ("invalid JSON: " ++ e.message))).compact

end Rebill.Script
