import Rebill.Settings.Tree
import Rebill.Yaml.Document

/-!
# YAML configuration files

A YAML configuration file holds at most one document; a file with none is an empty table. The
document's nodes become settings: text, whole numbers and flags as they are, a real number by
its binary64 value (`.inf` and the other spellings that are not a number's are refused), nothing
and bad values as nothing, sequences as lists and mappings as tables. The keys of a table are
the texts and whole numbers of the mapping's keys; a later pair replaces an earlier one with
the same key.

A mapping key of any other kind (nothing, a flag, a real number, a collection) is one the
reader has no answer for: reading stops there, and the program with it.
-/

namespace Rebill.Settings.Yaml

open Rebill.Yaml

/-- The name a key of a mapping takes in a table, when it is one a table may have. -/
def keyName? : Node → Option String
  | .string s => some s
  | .integer n => some (toString n)
  | _ => none

/-- Why a YAML file gives no setting: a refusal with its message, or a stop on a key the reader
has no answer for. -/
inductive Failure where
  | refused (message : String)
  | stopped
deriving DecidableEq, Repr, Inhabited

def stopMessage : String := "internal error: entered unreachable code"

def Failure.message : Failure → String
  | .refused m => m
  | .stopped => stopMessage

/-- Fields with the value under a name set, in place or added last. -/
def setField (fields : List (String × Setting)) (k : String) (v : Setting) :
    List (String × Setting) :=
  if fields.any (·.1 == k) then fields.map fun (k', v') => if k' == k then (k, v) else (k', v')
  else fields ++ [(k, v)]

mutual

def settingOf : Node → Except Failure Setting
  | .string s => .ok (.text s)
  | .real t =>
    match readReal? t with
    | some shown => .ok (.real shown)
    | none => .error (.refused ("Parsing " ++ t ++ " as floating point number failed"))
  | .integer n => .ok (.whole n)
  | .boolean b => .ok (.flag b)
  | .array items => .list <$> settingsOf items
  | .hash pairs => .table <$> fieldsOf [] pairs
  | .null | .badValue => .ok .nil

def settingsOf : List Node → Except Failure (List Setting)
  | [] => .ok []
  | n :: ns => do pure ((← settingOf n) :: (← settingsOf ns))

/-- The fields of a mapping, after the fields already read. -/
def fieldsOf (acc : List (String × Setting)) :
    List (Node × Node) → Except Failure (List (String × Setting))
  | [] => .ok acc
  | (k, v) :: ps =>
    match keyName? k with
    | none => .error .stopped
    | some name => do
      let v ← settingOf v
      fieldsOf (setField acc name v) ps

end

/-- Reads a YAML file into a setting, or why it gives none. -/
def readFile (text : String) : Except Failure Setting :=
  match documentsOf text with
  | .error e => .error (.refused e.text)
  | .ok [] => .ok (.table [])
  | .ok [doc] => settingOf doc
  | .ok ds => .error (.refused ("Got " ++ toString ds.length ++ " YAML documents, expected 1"))

/-- Reads a YAML file into a setting, or the text of its refusal. -/
def read (text : String) : Except String Setting :=
  (readFile text).mapError Failure.message

/-- Whether reading a YAML file stops on a key it has no answer for, before anything refuses
the file. -/
def stops (text : String) : Bool := readFile text matches .error .stopped

end Rebill.Settings.Yaml
