import Rebill.Settings.Load
import Rebill.Settings.Toml
import Rebill.Settings.Yaml
import Rebill.Settings.Ini
import Rebill.Settings.Ron
import Rebill.Settings.Json5
import Rebill.Settings.Path
import Rebill.Json.Reader

/-!
# The shared settings and where they come from

Every process of the service shares two settings, the log level (`info` unless set) and the
address of a trace collector (none unless set). They are read in layers:

1. a `.env` file in the working directory adds the variables it names that are not set yet;
2. a file `configuration.toml`, `.json`, `.yaml`, `.yml`, `.ini`, `.ron` or `.json5`, when there
   is one, gives a table of settings;
3. environment variables `APP__NAME` set `name` (in lower case, `__` for a dot), over the file.

Keys are read in lower case as paths, and the values merged as `Merged` says. A setting must be
text, a flag or a number; anything else is refused with the key and, when the value has one, the
source it came from. A file that does not read is refused with its reader's message and its
name. A YAML file may also stop the program, as `configurationStop?` says.
-/

namespace Rebill.Settings

/-- The formats a configuration file may have. -/
inductive Format where
  | toml
  | json
  | yaml
  | ini
  | ron
  | json5
deriving DecidableEq, Repr, Inhabited

/-- The configuration file names, in the order they are looked for, with their formats. -/
def configurationNames : List (String × Format) :=
  [("configuration.toml", .toml), ("configuration.json", .json), ("configuration.yaml", .yaml),
   ("configuration.yml", .yaml), ("configuration.ini", .ini), ("configuration.ron", .ron),
   ("configuration.json5", .json5)]

/-- Reads a file of a format into a setting, or the text of its refusal. -/
def Format.read : Format → String → Except String Setting
  | .toml, t => Toml.read t
  | .json, t => match readJson t with
    | .ok v => .ok (Setting.ofJson v)
    | .error e => .error e.message
  | .yaml, t => Yaml.read t
  | .ini, t => Ini.read t
  | .ron, t => Ron.read t
  | .json5, t => Json5.read t

/-- The configuration file of the working directory, with its format. -/
def configurationFile (files : Files) : Option (String × String × Format) :=
  configurationNames.findSome? fun (name, format) =>
    (files.find? (·.1 == name)).map fun (_, text) => (name, text, format)

/-- The placements a file makes: each key of its table, in lower case, read as a path, with the
file's name; a file whose top is not a table is refused. -/
def filePlacements (files : Files) : Except String (List (List PathStep × Placement)) :=
  match configurationFile files with
  | none => .ok []
  | some (name, text, format) =>
    match format.read text with
    | .error e => .error (e ++ " in " ++ name)
    | .ok (.table fields) =>
      .ok (fields.flatMap fun (k, v) => placementsAt (some name) k.toLower v)
    | .ok v => .error ("invalid type: " ++ v.describe ++ ", expected a map in " ++ name ++
                       " in " ++ name)

/-- The placements environment variables make: `APP__NAME` sets the path `name` in lower case,
with `__` read as a dot, to its text. -/
def envPlacements (env : Env) : List (List PathStep × Placement) :=
  env.vars.flatMap fun (k, v) =>
    let lower := k.toLower
    if lower.startsWith "app__" then
      let key := String.intercalate "." ((lower.drop 5).toString.splitOn "__")
      placementsAt (some "the environment") key (.text v)
    else []

/-- The message with which a path that counts back past the start of a list stops the program. -/
def indexUnderflowMessage : String := "attempt to subtract with overflow"

/-- The shared settings of an environment and the files of the working directory, after the
`.env` file: the file's values, then the environment's, merged; refusals are the
configuration's messages. -/
def loadTelemetry (env : Env) (files : Files) : Except String Telemetry := do
  let some merged := (Merged.table []).applyAll ((← filePlacements files) ++ envPlacements env)
    | throw indexUnderflowMessage
  let logLevel ← match merged.top? "log_level" with
    | none => pure "info"
    | some m => m.text? "log_level"
  let otlpEndpoint ← match merged.top? "otlp_endpoint" with
    | none => pure none
    | some (.value _ .nil) => pure none
    | some m => some <$> m.text? "otlp_endpoint"
  pure { logLevel, otlpEndpoint }

/-- The environment after the working directory's `.env` file, if there is one. -/
def withDotenv (env : Env) (files : Files) : Env :=
  match files.find? (·.1 == ".env") with
  | some (_, text) => loadDotenv text env
  | none => env

theorem withDotenv_of_none {files : Files} (hdot : files.find? (·.1 == ".env") = none) (env : Env) :
    withDotenv env files = env := by
  unfold withDotenv
  rw [hdot]

theorem envPlacements_shared (env : Env) : envPlacements ⟨env.shared⟩ = envPlacements env := by
  rcases env with ⟨vars⟩
  unfold envPlacements Env.shared
  induction vars with
  | nil => rfl
  | cons p ps ih =>
    obtain ⟨k, v⟩ := p
    by_cases hk : k.toLower.startsWith "app__" = true
    · simp only [List.filter_cons, hk, if_true, List.flatMap_cons] at ih ⊢
      rw [ih]
    · simp only [List.filter_cons, hk, Bool.false_eq_true, if_false, List.flatMap_cons,
        List.nil_append] at ih ⊢
      exact ih

theorem loadTelemetry_of_shared {env env' : Env} (h : env.shared = env'.shared) (files : Files) :
    loadTelemetry env files = loadTelemetry env' files := by
  unfold loadTelemetry
  rw [← envPlacements_shared env, ← envPlacements_shared env', h]

/-- The readers the service is built with: the `.env` file as `loadDotenv` reads it, then the
shared settings as `loadTelemetry` reads them. -/
def Readers.standard : Readers where
  dotenv := withDotenv
  telemetry := loadTelemetry
  dotenv_without_file _ _ hdot := withDotenv_of_none hdot _
  telemetry_of_shared _ _ files h := loadTelemetry_of_shared h files

/-- The message with which reading the configuration stops the program, when it does: a YAML
file with a mapping key its reader has no answer for, or, once the file reads, a key of the file
or the environment (after the `.env` file) whose path counts back past the start of a list. -/
def configurationStop? (env : Env) (files : Files) : Option String :=
  match configurationFile files with
  | some (_, text, .yaml) =>
    if Yaml.stops text then some Yaml.stopMessage else underflow
  | _ => underflow
where
  underflow : Option String :=
    match filePlacements files with
    | .ok ps =>
      match (Merged.table []).applyAll (ps ++ envPlacements (withDotenv env files)) with
      | some _ => none
      | none => some indexUnderflowMessage
    | .error _ => none

end Rebill.Settings
