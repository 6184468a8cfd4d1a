import Rebill.Text.Blank
import Rebill.Text.Pattern
import Rebill.Text.Unicode
import Rebill.Settings.Real

/-!
# Log filters

Which log lines a process writes is set by a filter: a comma-separated list of directives. A
directive is a level on its own (`off`, `error`, `warn`, `info`, `debug`, `trace` in any ASCII
case, or one digit `0` to `5`), or `target[span{field=value}]=level` where every part may be left
out, though a directive needs a target or brackets:

* the target runs to the first `[` or `=`; it holds letters and digits of any script, blanks and
  `_ : - . ]`, and is not blank;
* the brackets run to the last `]`; inside them a span name, then a field in braces with or
  without a value; empty brackets name the span with the empty name, which no span has;
* the level follows `=`: a level's name, a number up to 5, or nothing for all levels; a directive
  that begins with a blank and gives a level is refused as a level;
* a field value is a flag, a number, or a pattern (`Text.Pattern`); one that is none of these is
  refused.

A directive without a span name and without field values is *static*: it applies to lines whose
target starts with its target and that have all its field names. A line passes the static
directives when the most specific one that applies allows its level; a longer target is more
specific, then more field names, and a later directive replaces an earlier one with the same
target and field names. A filter with no directives at all passes errors only.

A directive that names a span or asks for fields is *dynamic*: it matches a span whose target
starts with its target, whose name is its span name, that has all its field names and whose
values are the given ones. Inside a span that a dynamic directive matches, a line passes when its
level is allowed by the most verbose of the directives that match the span. A directive that asks
for fields without values is both.

A filter from `RUST_LOG` must read in full; one that does not is set aside for the log level of
the settings, which is read leniently: directives that do not read are skipped, each with a
note on standard error.
-/

namespace Rebill.Cli

/-- The level of a log line, from the most to the least verbose. -/
inductive Level where
  | trace
  | debug
  | info
  | warn
  | error
deriving DecidableEq, Repr, Inhabited

namespace Level

def rank : Level → Nat
  | .error => 1
  | .warn => 2
  | .info => 3
  | .debug => 4
  | .trace => 5

def name : Level → String
  | .trace => "TRACE"
  | .debug => "DEBUG"
  | .info => "INFO"
  | .warn => "WARN"
  | .error => "ERROR"

end Level

/-- A value a span records. -/
inductive FieldValue where
  | bool (b : Bool)
  | unsigned (n : Nat)
  | text (s : String)
deriving DecidableEq, Repr, Inhabited

/-- A span as a filter sees it: its name, target, level and the values it records. -/
structure SpanSite where
  name : String
  target : String
  level : Level := .info
  fields : List (String × FieldValue) := []
deriving DecidableEq, Repr, Inhabited

/-- A field a directive asks for, with the value it must have, if any. -/
structure FieldMatch where
  name : String
  value : Option String := none
deriving DecidableEq, Repr, Inhabited

/-- A directive: an optional target prefix, an optional span name, the fields asked for, and the
most verbose rank it allows (zero allows nothing). -/
structure Directive where
  target : Option String := none
  span : Option String := none
  fields : List FieldMatch := []
  rank : Nat
deriving DecidableEq, Repr, Inhabited

/-- A decimal number as an unsigned integer reads it: an optional `+`, then digits only. -/
def unsignedOf? (s : String) : Option Nat :=
  let ds := match s.toList with
    | '+' :: rest => rest
    | cs => cs
  if ds.isEmpty || !ds.all Char.isDigit then none
  else some (ds.foldl (fun a c => a * 10 + (c.toNat - '0'.toNat)) 0)

/-- The rank a level's text names: a number up to 5 (with an optional `+`), a level's name in any
ASCII case, or `error` for the empty text. -/
def levelRank? (s : String) : Option Nat :=
  match unsignedOf? s with
  | some n => if n ≤ 5 then some n else none
  | none =>
    match s.toLower with
    | "" | "error" => some 1
    | "off" => some 0
    | "warn" => some 2
    | "info" => some 3
    | "debug" => some 4
    | "trace" => some 5
    | _ => none

/-- The rank a whole directive names when it is a level alone: a level's name in any ASCII case,
or a single digit `0` to `5`. -/
def exactLevelRank? (s : String) : Option Nat :=
  match s.toList with
  | [d] => if '0' ≤ d ∧ d ≤ '5' then some (d.toNat - '0'.toNat) else none
  | [] => none
  | _ => if s.toList.all Char.isAlpha then levelRank? s else none

def levelError : String :=
  "error parsing level filter: expected one of \"off\", \"error\", \"warn\", \"info\", " ++
  "\"debug\", \"trace\", or a number 0-5"

/-- The text of a directive that does not read for any other reason. -/
def invalidDirective : String := "invalid filter directive"

/-- The text of a directive whose field value is neither a number, a flag nor a pattern. -/
def fieldError : String := "invalid field filter: error building NFA"

/-- The characters before the first one that is `c`, and those after it, if it occurs. -/
def splitFirst (c : Char) (cs : List Char) : List Char × Option (List Char) :=
  let before := cs.takeWhile (· ≠ c)
  match cs.drop before.length with
  | _ :: after => (before, some after)
  | [] => (before, none)

/-- The characters before the last one that is `c`, and those after it, if it occurs. -/
def splitLast (c : Char) (cs : List Char) : Option (List Char × List Char) :=
  match splitFirst c cs.reverse with
  | (after, some before) => some (before.reverse, after.reverse)
  | (_, none) => none

/-- A text without its last character when that is `c`. -/
def withoutLast? (c : Char) (cs : List Char) : Option (List Char) :=
  if cs.getLast? = some c then some cs.dropLast else none

/-- Whether a character may be part of a target: a letter or digit of any script, a blank, or
one of `_`, `:`, `-`, `.`, `]` and the braces. -/
def isTargetChar (c : Char) : Bool :=
  Rebill.Text.Unicode.isAlphanumeric c || Rebill.Text.isBlank c || c == '_' || c == ':' || c == '-' ||
    c == '.' || c == ']' || c == '\x7b' || c == '\x7d'

/-- Whether a field value reads: a flag, a 64-bit whole number, a real number, or a pattern. -/
def valueReads (v : String) : Bool :=
  v == "true" || v == "false" || (unsignedOf? v).isSome ||
    (match v.toList with
     | '-' :: ds => (unsignedOf? (String.ofList ds)).isSome
     | _ => false) ||
    (Settings.readReal? v).isSome || Rebill.Text.Pattern.reads v

/-- Reads a field asked for: a name, then a value after `=`. -/
def readFieldMatch (cs : List Char) : Except String FieldMatch :=
  let (name, value) := splitFirst '=' cs
  if name.isEmpty then .error invalidDirective
  else
    match value with
    | none => .ok { name := String.ofList name }
    | some v =>
      if valueReads (String.ofList v) then .ok { name := String.ofList name, value := String.ofList v }
      else .error fieldError

/-- Reads the inside of a directive's brackets: a span name, then fields in braces. Without
braces the whole inside is the name, even when empty; with braces an empty name is none. -/
def readSpanPart (inner : List Char) : Except String (Option String × List FieldMatch) :=
  match splitFirst '\x7b' inner with
  | (name, none) => .ok (some (String.ofList name), [])
  | (name, some rest) =>
    match withoutLast? '\x7d' rest with
    | none => .error invalidDirective
    | some fs =>
      if fs.isEmpty || fs.contains '\x7d' then .error invalidDirective
      else do
        let fields ← ((String.ofList fs).splitOn ",").mapM fun p => readFieldMatch p.toList
        pure (if name.isEmpty then none else some (String.ofList name), fields)

/-- Reads one directive. The target runs to the first `[` or `=`; brackets run to the last `]`,
after which only `=level` may follow; without brackets the level is what follows the first `=`,
and an empty level allows all. The level is read first, then the target, then the brackets. A
directive that begins with a blank and gives a level is read as a level as a whole. -/
def readDirective (s : String) : Except String Directive :=
  match exactLevelRank? s with
  | some r => .ok { rank := r }
  | none => do
    let cs := s.toList
    let target := cs.takeWhile fun c => c ≠ '[' ∧ c ≠ '='
    let rest := cs.drop target.length
    let (inner, level) ← match rest with
      | '[' :: r =>
        match splitLast ']' r with
        | none => .error invalidDirective
        | some (inner, []) => pure (some inner, none)
        | some (inner, '=' :: l) => pure (some inner, some l)
        | some _ => .error invalidDirective
      | '=' :: l => pure (none, some l)
      | _ => pure (none, none)
    let rank ← match level with
      | none | some [] => pure 5
      | some l =>
        match levelRank? (String.ofList l) with
        | some r => pure r
        | none => .error levelError
    if level.isSome && (target.head?.map Rebill.Text.isBlank).getD false then .error levelError
    if !target.isEmpty && (target.all Rebill.Text.isBlank || !target.all isTargetChar) then
      .error invalidDirective
    let (span, fields) ← match inner with
      | none => pure (none, [])
      | some i => readSpanPart i
    if target.isEmpty && inner.isNone then .error invalidDirective
    pure { target := if target.isEmpty then none else some (String.ofList target), span, fields,
           rank }

/-- A filter: its directives, in order. -/
structure Filter where
  directives : List Directive := []
deriving Repr, Inhabited

def directiveTexts (s : String) : List String := (s.splitOn ",").filter (· ≠ "")

/-- Reads a filter in full; `none` when a directive does not read. -/
def Filter.strict (s : String) : Option Filter :=
  match (directiveTexts s).mapM readDirective with
  | .ok ds => some { directives := ds }
  | .error _ => none

/-- Reads a filter leniently: the directives that read, and a note for each that does not. -/
def Filter.lenient (s : String) : Filter × List String :=
  (directiveTexts s).foldl (fun (f, notes) p => match readDirective p with
    | .ok d => ({ directives := f.directives ++ [d] }, notes)
    | .error e => (f, notes ++ ["ignoring `" ++ p ++ "`: " ++ e])) ({}, [])

namespace Directive

/-- Whether the directive is static: no span name and no field value. -/
def isStatic (d : Directive) : Bool := d.span.isNone && d.fields.all (·.value.isNone)

def fieldNames (d : Directive) : List String := d.fields.map (·.name)

/-- Whether the directive's target, if any, begins a target. -/
def targets (d : Directive) (target : String) : Bool :=
  match d.target with
  | some t => target.startsWith t
  | none => true

/-- Whether one list of names comes before another, name by name. -/
def namesBefore : List String → List String → Bool
  | [], _ :: _ => true
  | a :: as, b :: bs => a < b || (a == b && namesBefore as bs)
  | _, _ => false

/-- Whether a static directive is tried before another: a longer target, then more field names,
then the greater target and field names. -/
def triedBefore (a b : Directive) : Bool :=
  let len := fun (d : Directive) => match d.target with
    | some t => t.utf8ByteSize + 1
    | none => 0
  if len a ≠ len b then len a > len b
  else if a.fields.length ≠ b.fields.length then a.fields.length > b.fields.length
  else if a.target ≠ b.target then
    match a.target, b.target with
    | some x, some y => y < x
    | some _, none => true
    | _, _ => false
  else namesBefore b.fieldNames a.fieldNames

/-- Whether a static directive applies to a line of a target with these field names. -/
def appliesToLine (d : Directive) (target : String) (names : List String) : Bool :=
  d.targets target && d.fieldNames.all names.contains

/-- Whether a directive's value matches a value a span records: truth values and unsigned
numbers are compared as such, and any other text as text. -/
def valueMatches (want : String) : FieldValue → Bool
  | .bool b => (want == "true" && b) || (want == "false" && !b)
  | .unsigned n => unsignedOf? want == some n
  | .text t => want != "true" && want != "false" && (unsignedOf? want).isNone && want == t

/-- Whether a dynamic directive is about a span: its target, name and field names fit. -/
def caresAbout (d : Directive) (s : SpanSite) : Bool :=
  d.targets s.target && (d.span.all (· == s.name)) &&
    d.fields.all fun f => s.fields.any (·.1 == f.name)

/-- Whether a dynamic directive about a span matches the values it records. -/
def matchesValues (d : Directive) (s : SpanSite) : Bool :=
  d.fields.all fun f => match f.value with
    | none => true
    | some v => s.fields.any fun (n, x) => n == f.name && valueMatches v x

end Directive

namespace Filter

/-- The static directives, a later one replacing an earlier one with the same target and field
names; with no directive at all, one that passes errors. -/
def statics (f : Filter) : List Directive :=
  if f.directives.isEmpty then [{ rank := 1 }]
  else
    f.directives.foldl (fun acc d =>
      if d.isStatic then
        (acc.filter fun e => e.target ≠ d.target ∨ e.fieldNames ≠ d.fieldNames) ++ [d]
      else acc) []

/-- Whether two dynamic directives are about the same thing: the same target, span name and
fields asked for, values included. -/
def sameSubject (a b : Directive) : Bool :=
  a.target == b.target && a.span == b.span &&
    a.fields.map (fun m => (m.name, m.value)) == b.fields.map (fun m => (m.name, m.value))

/-- The dynamic directives: those that name a span or ask for fields, a later one replacing an
earlier one about the same thing. A directive that asks for fields without values is static as
well. -/
def dynamics (f : Filter) : List Directive :=
  f.directives.foldl (fun acc d =>
    if d.span.isSome || !d.fields.isEmpty then
      (acc.filter fun e => !sameSubject e d) ++ [d]
    else acc) []

/-- The most verbose rank of some directives; zero for none. -/
def topRank (ds : List Directive) : Nat := ds.foldl (fun r d => max r d.rank) 0

/-- The most verbose rank anything may pass at: everything when a dynamic directive asks for a
field value, since values are only known once recorded; else the most verbose rank of any
directive, replaced ones included. -/
def ceiling (f : Filter) : Nat :=
  if f.dynamics.any (·.fields.any (·.value.isSome)) then 5
  else max (topRank f.statics) (topRank f.directives)

/-- Whether the static directives pass a line of a level, target and field names: the first
that applies, in the order they are tried, decides. -/
def staticallyAllows (f : Filter) (level : Level) (target : String) (names : List String) :
    Bool :=
  let applying := f.statics.filter (·.appliesToLine target names)
  let first := applying.foldl (fun (acc : Option Directive) d => match acc with
    | none => some d
    | some b => if d.triedBefore b then some d else some b) none
  match first with
  | some d => level.rank ≤ d.rank
  | none => false

/-- The rank a span allows inside it, when dynamic directives are about it: the most verbose of
those that match its values, zero when none does. -/
def spanRank? (f : Filter) (s : SpanSite) : Option Nat :=
  let caring := f.dynamics.filter (·.caresAbout s)
  if caring.isEmpty then none
  else some (topRank (caring.filter (·.matchesValues s)))

/-- The ranks the entered spans allow, for spans entered one inside the other; a span is entered
when its level is under the ceiling and a dynamic directive is about it, the static directives
pass it, or an enclosing span allows its level. -/
def scopeRanks (f : Filter) (spans : List SpanSite) : List Nat :=
  spans.foldl (fun ranks s =>
    let entered := s.level.rank ≤ f.ceiling &&
      ((f.spanRank? s).isSome || f.staticallyAllows s.level s.target [] ||
        ranks.any (s.level.rank ≤ ·))
    match entered, f.spanRank? s with
    | true, some r => ranks ++ [r]
    | _, _ => ranks) []

/-- Whether a filter passes a line of a level, target and field names, inside the given spans
from the outermost in: a span it is in allows its level, or the static directives do. -/
def allows (f : Filter) (level : Level) (target : String) (names : List String)
    (spans : List SpanSite) : Bool :=
  (f.scopeRanks spans).any (level.rank ≤ ·) || f.staticallyAllows level target names

end Filter

end Rebill.Cli
