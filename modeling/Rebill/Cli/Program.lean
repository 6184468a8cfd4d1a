import Rebill.Service.Startup
import Rebill.Settings.Layers
import Rebill.Cli.Ids
import Rebill.Text.Quoted

/-!
# The charging command

The charging command takes an optional list of attempt identifiers and charges every due
attempt, or only those. A run goes through these stages, and the first that fails ends it with
exit code 1 and a report on standard error:

1. the identifiers are read (a comma-separated list; blanks are skipped);
2. the settings are loaded from the environment and the working directory;
3. the log filter is set up, from `RUST_LOG` when it reads, else from the settings' log level;
4. the gateways are registered and the backends started;
5. the due attempts are charged, and a summary line is printed.

With memory storage the store starts empty, so a run that gets that far charges nothing. The
report of a failed stage is the error as the process's exit value shows it:
`Error: Custom { kind: ..., error: "..." }`, with the message quoted as a debug string.
-/

namespace Rebill.Cli

open Rebill.Settings

/-- A run of the command: its arguments, its environment and the files of its working
directory. -/
structure Invocation where
  args : List String := []
  env : Env := {}
  files : Files := []
deriving Inhabited

/-- A line a run writes on standard output: a log line or a line of text. -/
inductive Written where
  | log (l : LogLine)
  | text (s : String)
deriving Inhabited

/-- What a run of the command shows: its exit code, what it wrote on standard output, in order,
and the text on standard error. -/
structure Outcome where
  exit : Nat
  written : List Written := []
  stderr : String := ""
deriving Inhabited

namespace Outcome

def logs (r : Outcome) : List LogLine :=
  r.written.filterMap fun w => match w with
    | .log l => some l
    | .text _ => none

def stdout (r : Outcome) : List String :=
  r.written.filterMap fun w => match w with
    | .log _ => none
    | .text s => some s

end Outcome

/-- The report of a failed stage: the error of the given kind with its message. -/
def errorReport (kind message : String) : String :=
  "Error: Custom \x7b kind: " ++ kind ++ ", error: " ++ Text.debugQuote message ++ " \x7d\n"

def commandTarget : String := "recurrent_charge"

def runTarget : String := "recurrent_billing::services::orchestrator"

/-- The span of a charging run, which records whether it was narrowed to some attempts. -/
def runSpan (narrowed : Bool) : SpanSite :=
  { name := "run", target := runTarget, fields := [("narrowed", .bool narrowed)] }

/-- The descriptions of the metric families a run with nothing to charge has. -/
def finalMetrics : String :=
  "# HELP recurrent_lock_wait_seconds Time spent acquiring advisory locks\n" ++
  "# TYPE recurrent_lock_wait_seconds histogram\n" ++
  "# HELP recurrent_runs_total Recurrent charge runs by status\n" ++
  "# TYPE recurrent_runs_total counter"

def countField (n : Nat) : Json := .number (.whole n)

/-- The summary line of a run that charged nothing, given the text of its duration. -/
def summaryLine (elapsed : String) : String :=
  "Processed 0 attempts in " ++ elapsed ++
  ": 0 charged, 0 pending, 0 failed, 0 stopped, 0 fast-charge, 0 unhandled, 0 skipped, 0 errors"

/-- The log filter of a run, and the notes its setting-up wrote on standard error. -/
def logFilter (env : Env) (s : Config) : Filter × List String :=
  match (env.get? "RUST_LOG").bind Filter.strict with
  | some f => (f, [])
  | none => Filter.lenient s.telemetry.logLevel

/-- Whether a run with this invocation would reach a database, Redis or a trace collector: its
settings load and name one that is reachable. -/
def Invocation.reachesOut (inv : Invocation) : Bool :=
  match Config.load .standard inv.env inv.files with
  | .ok s => s.connects || s.telemetry.otlpEndpoint.isSome
  | .error _ => false

/-- Runs the command, given the text of the run's duration. -/
def Invocation.run (inv : Invocation) (elapsed : String) : Outcome :=
  match attemptIds inv.args.head? with
  | .error e => { exit := 1, stderr := e ++ "\n" ++ errorReport "InvalidInput" e }
  | .ok ids =>
    match Config.load .standard inv.env inv.files with
    | .error e =>
      let shown := (Fault.config e).text
      { exit := 1,
        stderr := "Failed to load configuration: " ++ shown ++ "\n" ++
                  errorReport "Other" ("Configuration error: " ++ shown) }
    | .ok s =>
      let (filter, notes) := logFilter (Readers.standard.dotenv inv.env inv.files) s
      let shown := fun (lines : List LogLine) =>
        (lines.filter fun l => filter.allows l.level l.target l.fieldNames l.spans).map Written.log
      let noted := String.join (notes.map (· ++ "\n"))
      let opening : List LogLine :=
        [{ level := .info, target := commandTarget, message := "Starting recurrent charge run",
           fields := [("version", .string s.serviceVersion), ("storage", .string s.storage.name),
                      ("lock", .string s.lock.name), ("narrowed", .bool ids.isSome)] },
         { level := .debug, target := "recurrent_billing::services::gateway",
           message := "Registered gateway", fields := [("gateway", .string "manual")] }]
      let start := s.start
      match start.failure with
      | some e =>
        let failed : LogLine :=
          { level := .error, target := commandTarget, message := "Failed to build application",
            fields := [("error", .string e.text)] }
        { exit := 1, written := shown (opening ++ start.logs ++ [failed]),
          stderr := noted ++ errorReport "Other" ("Application build error: " ++ e.text) }
      | none =>
        let charging : List LogLine :=
          [{ level := .info, target := runTarget, spans := [runSpan ids.isSome],
             message := "Loaded chargeable attempts", fields := [("count", countField 0)] },
           { level := .info, target := runTarget, spans := [runSpan ids.isSome],
             message := "Recurrent charge run finished",
             fields := [("processed", countField 0), ("charged", countField 0),
                        ("errors", countField 0)] }]
        let metrics : LogLine :=
          { level := .debug, target := commandTarget, message := "Final metrics",
            fields := [("metrics", .string finalMetrics)] }
        { exit := 0,
          written := shown (opening ++ start.logs ++ charging) ++ [.text (summaryLine elapsed)] ++
            shown [metrics],
          stderr := noted }

end Rebill.Cli
