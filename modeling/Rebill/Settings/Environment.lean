import Rebill.Text.Blank
import Rebill.Text.Unicode

/-!
# The environment and `.env` files

`Env` is the set of environment variables a process sees: names with values, each name set at
most once.

A `.env` file adds variables that are not set yet; a variable that is set keeps its value. The
file is read line by line:

* a line whose first non-blank character is `#` is a comment, and so is a blank line;
* otherwise it is `NAME=value`, optionally after `export `; a name starts with an ASCII letter
  or `_` and goes on with ASCII letters, digits, `_` and `.`;
* in a value, `'...'` is taken as it is, `"..."` takes the escapes `\\`, `\'`, `\"`, `\$`,
  `\ ` and `\n`, and `$NAME` or `$\x7bNAME\x7d` outside single quotes is replaced by the variable's
  value (empty when unset), where a bare `NAME` is letters and digits of any script (an
  underscore ends it); an unquoted blank ends the value, and after it only blanks and a `#`
  comment may follow;
* a quote left open at the end of a physical line carries the value on to the next line.

A line that does not read this way ends the reading: the lines before it count, it and the lines
after it do not. A quote or escape left open at the end of the file ends the reading the same way.
-/

namespace Rebill.Settings

open Rebill.Text

/-- Environment variables, each name with its value. -/
structure Env where
  vars : List (String × String) := []
deriving Inhabited, Repr

namespace Env

def get? (e : Env) (name : String) : Option String :=
  (e.vars.find? (·.1 == name)).map (·.2)

def set (e : Env) (name value : String) : Env :=
  if e.vars.any (·.1 == name) then
    ⟨e.vars.map fun (k, v) => if k == name then (k, value) else (k, v)⟩
  else ⟨e.vars ++ [(name, value)]⟩

def setDefault (e : Env) (name value : String) : Env :=
  if (e.get? name).isSome then e else e.set name value

/-- The environment of the given pairs; a later pair of a name wins. -/
def ofList (pairs : List (String × String)) : Env :=
  pairs.foldl (fun e (k, v) => e.set k v) {}

end Env

/-- Where the scan of a physical line of a `.env` file stands. -/
inductive LineState where
  | complete
  | blank
  | escape
  | weak
  | weakEscape
  | strong
  | comment
deriving DecidableEq, Repr, Inhabited

def lineStep : LineState → Char → LineState
  | .blank, c =>
    if c = '#' then .comment else if c = '\\' then .escape
    else if c = '"' then .weak else if c = '\'' then .strong else .complete
  | .escape, _ => .complete
  | .complete, c =>
    if isBlank c ∧ c ≠ '\n' ∧ c ≠ '\r' then .blank else if c = '\\' then .escape
    else if c = '"' then .weak else if c = '\'' then .strong else .complete
  | .weak, c => if c = '\\' then .weakEscape else if c = '"' then .complete else .weak
  | .weakEscape, _ => .weak
  | .strong, c => if c = '\'' then .complete else .strong
  | .comment, _ => .comment

/-- A line is finished when it is complete or ends in a comment. -/
def LineState.finished (s : LineState) : Bool := s == .complete || s == .comment

/-- Splits text into physical lines, each keeping its line feed. -/
def physicalLines : List Char → List Char → List (List Char)
  | [], [] => []
  | [], acc => [acc.reverse]
  | '\n' :: rest, acc => ('\n' :: acc).reverse :: physicalLines rest []
  | c :: rest, acc => physicalLines rest (c :: acc)

/-- A line without its line feed and the carriage return before it. -/
def dropLineEnd (cs : List Char) : List Char :=
  let cs := if cs.getLast? = some '\n' then cs.dropLast else cs
  if cs.getLast? = some '\r' then cs.dropLast else cs

/-- Joins physical lines into the logical lines of a `.env` file, with whether a quote or escape
was left open at the end of the file. -/
def logicalLines : List (List Char) → List Char → LineState → List (List Char) × Bool
  | [], _, s => ([], !s.finished)
  | l :: ls, buf, s =>
    let buf := buf ++ l
    if (dropBlanks buf).head? = some '#' then
      let (rest, broken) := logicalLines ls [] .complete
      ([] :: rest, broken)
    else
      let s := l.foldl (fun s c => if s == .comment then s else lineStep s c) s
      if s.finished then
        let (rest, broken) := logicalLines ls [] .complete
        (dropLineEnd buf :: rest, broken)
      else logicalLines ls buf s

/-- How a `$` reference in a value is being read. -/
inductive Reference where
  | none
  | plain
  | braced
deriving DecidableEq, Repr, Inhabited

/-- The scan of a value. -/
structure ValueScan where
  out : String := ""
  strong : Bool := false
  weak : Bool := false
  escaped : Bool := false
  ending : Bool := false
  reference : Reference := .none
  name : String := ""
deriving Inhabited

def ValueScan.resolve (v : ValueScan) (env : Env) : ValueScan :=
  { v with out := v.out ++ (env.get? v.name).getD "", name := "" }

/-- The value read when the line ends: `none` while a quote or a braced reference is open. -/
def ValueScan.finish (v : ValueScan) (env : Env) : Option String :=
  if v.reference == .braced || v.strong || v.weak then none
  else some (v.resolve env).out

def scanValue (env : Env) : List Char → ValueScan → Option String
  | [], v => v.finish env
  | c :: rest, v =>
    if v.ending then
      if c = ' ' ∨ c = '\t' then scanValue env rest v
      else if c = '#' then v.finish env
      else none
    else if v.escaped then
      if c = '\\' ∨ c = '\'' ∨ c = '"' ∨ c = '$' ∨ c = ' ' then
        scanValue env rest { v with out := v.out.push c, escaped := false }
      else if c = 'n' then scanValue env rest { v with out := v.out.push '\n', escaped := false }
      else none
    else if v.strong then
      if c = '\'' then scanValue env rest { v with strong := false }
      else scanValue env rest { v with out := v.out.push c }
    else if v.reference != .none then
      if Unicode.isAlphanumeric c then scanValue env rest { v with name := v.name.push c }
      else if v.reference == .plain then
        if c = '\x7b' ∧ v.name.isEmpty then scanValue env rest { v with reference := .braced }
        else
          let v := v.resolve env
          if c = '$' then scanValue env rest { v with reference := .plain }
          else scanValue env rest { v with reference := .none, out := v.out.push c }
      else if c = '\x7d' then scanValue env rest { v.resolve env with reference := .none }
      else scanValue env rest { v with name := v.name.push c }
    else if c = '$' then scanValue env rest { v with reference := .plain }
    else if v.weak then
      if c = '"' then scanValue env rest { v with weak := false }
      else if c = '\\' then scanValue env rest { v with escaped := true }
      else scanValue env rest { v with out := v.out.push c }
    else if c = '\'' then scanValue env rest { v with strong := true }
    else if c = '"' then scanValue env rest { v with weak := true }
    else if c = '\\' then scanValue env rest { v with escaped := true }
    else if c = ' ' ∨ c = '\t' then scanValue env rest { v with ending := true }
    else scanValue env rest { v with out := v.out.push c }

/-- Reads the name at the start of a line, and the rest. -/
def scanName : List Char → Option (String × List Char)
  | c :: rest =>
    if c.isAlpha ∨ c = '_' then
      let tail := rest.takeWhile fun d => d.isAlphanum ∨ d = '_' ∨ d = '.'
      some (String.ofList (c :: tail), rest.drop tail.length)
    else none
  | [] => none

/-- Reads a logical line: `none` when it does not read, `some none` for a comment or a blank
line, else the name and the value. -/
def scanLine (env : Env) (line : List Char) : Option (Option (String × String)) := do
  let cs := dropBlanks line
  if cs.isEmpty ∨ cs.head? = some '#' then return none
  let (name, cs) ← scanName cs
  let cs := dropBlanks cs
  let (name, cs) ← match cs with
    | '=' :: rest => pure (name, rest)
    | _ =>
      if name = "export" then
        let (name, cs) ← scanName cs
        match dropBlanks cs with
        | '=' :: rest => pure (name, rest)
        | _ => none
      else none
  let cs := dropBlanks cs
  if cs.isEmpty ∨ cs.head? = some '#' then return some (name, "")
  let value ← scanValue env cs {}
  return some (name, value)

/-- Loads logical lines into the environment until one does not read. -/
def loadLines : List (List Char) → Env → Env
  | [], env => env
  | l :: ls, env =>
    match scanLine env l with
    | none => env
    | some none => loadLines ls env
    | some (some (name, value)) => loadLines ls (env.setDefault name value)

/-- The environment after loading a `.env` file's text: a byte order mark at the start is
skipped, and variables that are set keep their values. -/
def loadDotenv (text : String) (env : Env) : Env :=
  let cs := match text.toList with
    | '\uFEFF' :: rest => rest
    | cs => cs
  (loadLines (logicalLines (physicalLines cs []) [] .complete).1 env)

end Rebill.Settings
