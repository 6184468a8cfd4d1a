import Rebill.Cli.Program
import Rebill.Json.Writer

/-!
# The charging command

Given no argument the command charges every due attempt; given a comma-separated list of
attempt identifiers, only those. It reads its
settings from the environment, a `.env` file and a configuration file in the working directory,
writes its log lines and summary on standard output and its failures on standard error, and
exits with the run's exit code.
-/

open Rebill Rebill.Cli Rebill.Settings

/-- The variables the command reads from its environment. -/
def watchedVariables : List String := settingKeys ++ ["RUST_LOG"]

/-- The files the command reads from its working directory. -/
def watchedFiles : List String := ".env" :: configurationNames.map (·.1)

/-- A duration in milliseconds as seconds with three decimals. -/
def secondsText (ms : Nat) : String :=
  let frac := toString (ms % 1000)
  toString (ms / 1000) ++ "." ++ String.ofList (List.replicate (3 - frac.length) '0') ++ frac ++ "s"

/-- A log line as the command writes it: one JSON object. -/
def logText (l : LogLine) : String :=
  (Json.object ([("level", .string l.level.name), ("message", .string l.message)] ++ l.fields ++
    [("target", .string l.target)])).compact

/-- Reads a file of the working directory, if there is one. -/
def readWorkingFile (name : String) : IO (Option (String × String)) := do
  try
    let text ← IO.FS.readFile name
    pure (some (name, text))
  catch _ =>
    pure none

def main (args : List String) : IO UInt32 := do
  let started ← IO.monoMsNow
  let vars ← watchedVariables.filterMapM fun k => do
    pure ((← IO.getEnv k).map fun v => (k, v))
  let files ← watchedFiles.filterMapM readWorkingFile
  let inv : Invocation := { args, env := Env.ofList vars, files }
  let elapsed := secondsText ((← IO.monoMsNow) - started)
  let r := inv.run elapsed
  for w in r.written do
    match w with
    | .log l => IO.println (logText l)
    | .text s => IO.println s
  IO.eprint r.stderr
  pure r.exit.toUInt32
