import Rebill.Settings.Tree
import Rebill.Settings.Number

/-!
# TOML configuration files

A reader of TOML documents into settings: key/value lines with bare, quoted and dotted keys,
`[table]` and `[[array of tables]]` headers, comments, the four kinds of strings, whole and real
numbers (`inf` and `nan` too), booleans, dates and times (kept as their text), arrays and inline
tables.

The reader is a set of step parsers over the characters: each takes the input and gives a value
with the input after it. A step that does not apply *misses*, and the caller may try another
reading; a step that applies and then breaks *stops* the whole reading. A fault carries the
label of what was being read, what was expected there, and a cause; its text is one line for
each, as in `invalid array` then `expected ]` in backquotes.

The text of a refused document names the line and column of the fault, shows that line with a
caret under the column, then gives the fault's text.
-/

namespace Rebill.Settings.Toml

/-- Where a reading broke and why: how much input was left, the label of what was being read,
what was expected, and a cause. -/
structure Fault where
  left : Nat
  label : Option String := none
  expected : List String := []
  cause : Option String := none
deriving Inhabited

namespace Fault

def at_ (cs : List Char) : Fault := { left := cs.length }

/-- Names what was being read, unless something inner already did. -/
def labelled (f : Fault) (l : String) : Fault :=
  { f with label := f.label.orElse fun _ => some l }

def expecting (f : Fault) (e : String) : Fault := { f with expected := f.expected ++ [e] }

/-- The message of a fault: the label, what was expected, and the cause, a line each. -/
def message (f : Fault) : String :=
  let parts := (f.label.map ("invalid " ++ ·)).toList ++
    (if f.expected.isEmpty then [] else ["expected " ++ ", ".intercalate f.expected]) ++
    f.cause.toList
  "\n".intercalate parts

end Fault

/-- The result of a step: a value with the input after it, a miss, or a stop. -/
inductive Step (α : Type) where
  | done (a : α) (rest : List Char)
  | miss (f : Fault)
  | stop (f : Fault)
deriving Inhabited

namespace Step

def mapFault {α : Type} (g : Fault → Fault) : Step α → Step α
  | .done a r => .done a r
  | .miss f => .miss (g f)
  | .stop f => .stop (g f)

/-- Makes a miss a stop: the reading has gone too far to try another. -/
def cut {α : Type} : Step α → Step α
  | .miss f => .stop f
  | s => s

end Step

/-- A step that did not succeed, as a step of another type. -/
def Step.failed {α β : Type} : Step α → Step β
  | .done _ r => .miss (Fault.at_ r)
  | .miss f => .miss f
  | .stop f => .stop f

def expectChar (c : Char) : String :=
  if c = '\n' then "newline" else "`" ++ c.toString ++ "`"

def isSpace (c : Char) : Bool := c = ' ' || c = '\t'

def blanks (cs : List Char) : List Char := cs.dropWhile isSpace

def isCommentChar (c : Char) : Bool := c = '\t' || (' ' ≤ c && c ≠ '\x7f')

/-- The input after a comment, when it starts with one. -/
def skipComment : List Char → List Char
  | '#' :: rest => rest.dropWhile isCommentChar
  | cs => cs

/-- The input after a line break, when it starts with one. -/
def newline? : List Char → Option (List Char)
  | '\n' :: rest => some rest
  | '\r' :: '\n' :: rest => some rest
  | _ => none

/-- The input after blanks, comments and line breaks, with a bound on the rounds. -/
def gapWithin : Nat → List Char → List Char
  | 0, cs => cs
  | fuel + 1, cs =>
    let cs := skipComment (blanks cs)
    match newline? cs with
    | some rest => gapWithin fuel rest
    | none => cs

def gap (cs : List Char) : List Char := gapWithin (cs.length + 1) cs

/-- The end of a line after a value or header: blanks, maybe a comment, then a line break or
the end of the input. -/
def lineTrailing (cs : List Char) : Step Unit :=
  let cs := skipComment (blanks cs)
  match cs with
  | [] => .done () []
  | _ => match newline? cs with
    | some rest => .done () rest
    | none => .miss ((Fault.at_ cs).expecting "newline" |>.expecting (expectChar '#'))

/-! ## Strings -/

/-- A character that stands for itself in a basic string. -/
def isBasicChar (c : Char) : Bool :=
  c = ' ' || c = '\t' || c = '!' || ('#' ≤ c && c ≤ '[') || (']' ≤ c && c ≤ '~') ||
    c.toNat ≥ 0x80

def isLiteralChar (c : Char) : Bool :=
  c = '\t' || (' ' ≤ c && c ≤ '&') || ('(' ≤ c && c ≤ '~') || c.toNat ≥ 0x80

def hexValue? (c : Char) : Option Nat :=
  if '0' ≤ c ∧ c ≤ '9' then some (c.toNat - '0'.toNat)
  else if 'a' ≤ c ∧ c ≤ 'f' then some (c.toNat - 'a'.toNat + 10)
  else if 'A' ≤ c ∧ c ≤ 'F' then some (c.toNat - 'A'.toNat + 10)
  else none

def hexDigits : Nat → List Char → Nat → Option (Nat × List Char)
  | 0, cs, acc => some (acc, cs)
  | n + 1, c :: cs, acc => (hexValue? c).bind fun d => hexDigits n cs (acc * 16 + d)
  | _ + 1, [], _ => none

/-- A unicode escape of `n` digits, after its letter; digits that name no character are out of
range. -/
def unicodeEscape (n : Nat) (label : String) (cs : List Char) : Step Char :=
  match hexDigits n cs 0 with
  | some (v, rest) =>
    if v < 0xD800 ∨ (0xDFFF < v ∧ v < 0x110000) then .done (Char.ofNat v) rest
    else .stop ({ Fault.at_ cs with cause := some "value is out of range" }.labelled label)
  | none => .stop ((Fault.at_ cs).labelled label)

def escape : List Char → Step Char
  | 'b' :: r => .done '\x08' r
  | 'f' :: r => .done '\x0c' r
  | 'n' :: r => .done '\n' r
  | 'r' :: r => .done '\r' r
  | 't' :: r => .done '\t' r
  | '\\' :: r => .done '\\' r
  | '"' :: r => .done '"' r
  | 'u' :: r => unicodeEscape 4 "unicode 4-digit hex code" r
  | 'U' :: r => unicodeEscape 8 "unicode 8-digit hex code" r
  | _ :: r => .stop (["b", "f", "n", "r", "t", "u", "U", "\\", "\""].foldl
      (fun f e => f.expecting ("`" ++ e ++ "`")) ((Fault.at_ r).labelled "escape sequence"))
  | [] => .miss (Fault.at_ [])

/-- The fault of a reading that ran out of rounds; the bound is the input's length, so a
reading never gets here. -/
def exhausted (cs : List Char) : Fault := { left := cs.length, cause := some "input too deep" }

/-- The characters of a basic string up to its closing quote. -/
def basicBody : Nat → List Char → String → Step String
  | 0, cs, _ => .stop (exhausted cs)
  | fuel + 1, '\\' :: r, acc =>
    match escape r with
    | .done c r' => basicBody fuel r' (acc.push c)
    | .stop f => .stop f
    | .miss _ => .done acc ('\\' :: r)
  | fuel + 1, c :: r, acc =>
    if isBasicChar c then basicBody fuel r (acc.push c) else .done acc (c :: r)
  | _ + 1, [], acc => .done acc []

def basicString : List Char → Step String
  | '"' :: r =>
    match basicBody (r.length + 1) r "" with
    | .done s ('"' :: rest) => .done s rest
    | .done _ rest => .stop ((Fault.at_ rest).labelled "basic string")
    | .stop f => .stop f
    | .miss f => .stop f
  | cs => .miss (Fault.at_ cs)

def literalString : List Char → Step String
  | '\'' :: r =>
    let body := r.takeWhile isLiteralChar
    match r.drop body.length with
    | '\'' :: rest => .done (String.ofList body) rest
    | rest => .stop ((Fault.at_ rest).labelled "literal string")
  | cs => .miss (Fault.at_ cs)

/-- The input after a first line break, when it starts with one. -/
def dropFirstNewline (cs : List Char) : List Char := (newline? cs).getD cs

/-- Blanks and line breaks after a line-ending backslash. -/
def lineJoin (cs : List Char) : List Char :=
  cs.dropWhile fun c => c = ' ' || c = '\t' || c = '\n' || c = '\r'

/-- The body of a multi-line basic string up to its closing quotes; at most two quotes just
before the closing three belong to the string. -/
def mlBasicBody : Nat → List Char → String → Step String
  | 0, cs, _ => .stop (exhausted cs)
  | _ + 1, '"' :: '"' :: '"' :: r, acc =>
    match r with
    | '"' :: '"' :: r' => .done (acc ++ "\"\"") r'
    | '"' :: r' => .done (acc ++ "\"") r'
    | _ => .done acc r
  | fuel + 1, '"' :: r, acc => mlBasicBody fuel r (acc.push '"')
  | fuel + 1, '\\' :: r, acc =>
    match newline? (blanks r) with
    | some rest => mlBasicBody fuel (lineJoin rest) acc
    | none =>
      match escape r with
      | .done c r' => mlBasicBody fuel r' (acc.push c)
      | .stop f => .stop f
      | .miss _ => .stop ((Fault.at_ ('\\' :: r)).labelled "multiline basic string")
  | fuel + 1, '\r' :: '\n' :: r, acc => mlBasicBody fuel r (acc.push '\n')
  | fuel + 1, '\n' :: r, acc => mlBasicBody fuel r (acc.push '\n')
  | fuel + 1, c :: r, acc =>
    if isBasicChar c then mlBasicBody fuel r (acc.push c)
    else .stop ((Fault.at_ (c :: r)).labelled "multiline basic string")
  | _ + 1, [], _ => .stop ((Fault.at_ []).labelled "multiline basic string")

/-- The body of a multi-line literal string up to its closing quotes. -/
def mlLiteralBody : List Char → String → Step String
  | '\'' :: '\'' :: '\'' :: r, acc =>
    match r with
    | '\'' :: '\'' :: r' => .done (acc ++ "''") r'
    | '\'' :: r' => .done (acc ++ "'") r'
    | _ => .done acc r
  | '\'' :: r, acc => mlLiteralBody r (acc.push '\'')
  | '\r' :: '\n' :: r, acc => mlLiteralBody r (acc.push '\n')
  | '\n' :: r, acc => mlLiteralBody r (acc.push '\n')
  | c :: r, acc =>
    if isLiteralChar c then mlLiteralBody r (acc.push c)
    else .stop ((Fault.at_ (c :: r)).labelled "multiline literal string")
  | [], _ => .stop ((Fault.at_ []).labelled "multiline literal string")

def string (cs : List Char) : Step String :=
  match cs with
  | '"' :: '"' :: '"' :: r =>
    let body := dropFirstNewline r
    mlBasicBody (body.length + 1) body ""
  | '"' :: _ => basicString cs
  | '\'' :: '\'' :: '\'' :: r => mlLiteralBody (dropFirstNewline r) ""
  | '\'' :: _ => literalString cs
  | _ => .miss (Fault.at_ cs)

/-! ## Keys -/

/-- A part of a key: the name it stands for and the text it was written as. -/
structure Key where
  name : String
  raw : String
deriving DecidableEq, Inhabited

def isBareKeyChar (c : Char) : Bool :=
  ('a' ≤ c && c ≤ 'z') || ('A' ≤ c && c ≤ 'Z') || ('0' ≤ c && c ≤ '9') || c = '_' || c = '-'

def simpleKey (cs : List Char) : Step Key :=
  let written := fun (rest : List Char) => String.ofList (cs.take (cs.length - rest.length))
  match cs with
  | '"' :: _ =>
    match basicString cs with
    | .done k rest => .done ⟨k, written rest⟩ rest
    | s => s.failed
  | '\'' :: _ =>
    match literalString cs with
    | .done k rest => .done ⟨k, written rest⟩ rest
    | s => s.failed
  | _ =>
    let k := cs.takeWhile isBareKeyChar
    if k.isEmpty then .miss (Fault.at_ cs)
    else .done ⟨String.ofList k, String.ofList k⟩ (cs.drop k.length)

/-- The parts of a dotted key after its first, each after a dot; a dot with no part after it
is left to the caller. -/
def keyRest : Nat → List Char → List Key → Step (List Key)
  | 0, cs, _ => .stop (exhausted cs)
  | fuel + 1, '.' :: r, acc =>
    match simpleKey (blanks r) with
    | .done k rest => keyRest fuel (blanks rest) (acc ++ [k])
    | .stop f => .stop f
    | .miss _ => .done acc ('.' :: r)
  | _ + 1, cs, acc => .done acc cs

/-- How many parts a key may have, and how deeply arrays and inline tables may nest. -/
def nestingLimit : Nat := 80

/-- A key, dotted or not, with the blanks around its parts; a key of too many parts is
refused. -/
def key (cs : List Char) : Step (List Key) :=
  match simpleKey (blanks cs) with
  | .done k rest =>
    match keyRest (rest.length + 1) (blanks rest) [k] with
    | .done ks r =>
      if nestingLimit ≤ ks.length then
        .stop { left := cs.length, cause := some "recursion limit exceeded" }
      else .done ks r
    | s => s
  | s => Step.failed (s.mapFault (·.labelled "key"))

/-! ## Values -/

/-- A value of a document: the scalars, arrays, and inline tables. A table that an inline table
makes for a dotted key is marked dotted; a date or time is kept as its text. -/
inductive Value where
  | string (s : String)
  | integer (n : Int)
  | float (shown : String)
  | boolean (b : Bool)
  | datetime (shown : String)
  | array (items : List Value)
  | inlineTable (dotted : Bool) (pairs : List (String × Value))
deriving Inhabited

def Value.typeName : Value → String
  | .string _ => "string"
  | .integer _ => "integer"
  | .float _ => "float"
  | .boolean _ => "boolean"
  | .datetime _ => "datetime"
  | .array _ => "array"
  | .inlineTable _ _ => "inline table"

/-! ## Numbers, dates and times -/

/-- Decimal digits with single underscores between them, after a first digit; an underscore
not followed by a digit stops the reading. The digits read so far are kept reversed. -/
def digitGroups : Nat → List Char → List Char → Step (List Char)
  | 0, cs, _ => .stop (exhausted cs)
  | fuel + 1, c :: r, acc =>
    if c.isDigit then digitGroups fuel r (c :: acc)
    else if c = '_' then
      match r with
      | d :: r' =>
        if d.isDigit then digitGroups fuel r' (d :: '_' :: acc)
        else .stop ((Fault.at_ r).expecting "digit")
      | [] => .stop ((Fault.at_ []).expecting "digit")
    else .done acc.reverse (c :: r)
  | _ + 1, [], acc => .done acc.reverse []

/-- A decimal integer: an optional sign, then `0` or digits that do not start with `0`. -/
def decInt (cs : List Char) : Step (List Char) :=
  let (sign, r) : List Char × List Char := match cs with
    | '+' :: r => (['+'], r)
    | '-' :: r => (['-'], r)
    | _ => ([], cs)
  let s : Step (List Char) := match r with
    | c :: r' =>
      if '1' ≤ c ∧ c ≤ '9' then
        match digitGroups (r'.length + 1) r' [c] with
        | .done ds rest => .done (sign ++ ds) rest
        | s => s.failed
      else if c = '0' then .done (sign ++ ['0']) r'
      else .miss (Fault.at_ r)
    | [] => .miss (Fault.at_ r)
  s.mapFault (·.labelled "integer")

/-- Digits, leading zeros allowed, with single underscores between them. -/
def zeroPrefixable (cs : List Char) : Step (List Char) :=
  match cs with
  | c :: r => if c.isDigit then digitGroups (r.length + 1) r [c] else .miss (Fault.at_ cs)
  | [] => .miss (Fault.at_ cs)

def frac : List Char → Step (List Char)
  | '.' :: r =>
    match zeroPrefixable r with
    | .done ds rest => .done ('.' :: ds) rest
    | s => (s.cut.mapFault (·.expecting "digit")).failed
  | cs => .miss (Fault.at_ cs)

/-- An exponent: `e` or `E`, an optional sign, then digits. -/
def expPart : List Char → Step (List Char)
  | e :: r =>
    if e = 'e' ∨ e = 'E' then
      let (sign, r) : List Char × List Char := match r with
        | '+' :: r' => (['+'], r')
        | '-' :: r' => (['-'], r')
        | _ => ([], r)
      match zeroPrefixable r with
      | .done ds rest => .done (e :: sign ++ ds) rest
      | s => s.cut.failed
    else .miss (Fault.at_ (e :: r))
  | [] => .miss (Fault.at_ [])

/-- The text of a real number: an integer part, then an exponent, or a fraction and maybe an
exponent. -/
def floatText (cs : List Char) : Step (List Char) :=
  match decInt cs with
  | .done ds r =>
    match r with
    | '.' :: _ =>
      match frac r with
      | .done fs r' =>
        match r' with
        | c :: _ =>
          if c = 'e' ∨ c = 'E' then
            match expPart r' with
            | .done es r'' => .done (ds ++ fs ++ es) r''
            | s => s.failed
          else .done (ds ++ fs) r'
        | [] => .done (ds ++ fs) r'
      | s => s.failed
    | c :: _ =>
      if c = 'e' ∨ c = 'E' then
        match expPart r with
        | .done es r' => .done (ds ++ es) r'
        | s => s.failed
      else .miss (Fault.at_ r)
    | [] => .miss (Fault.at_ r)
  | s => s.failed

def digitsValue (ds : List Char) : Nat :=
  ds.foldl (fun acc c => acc * 10 + (c.toNat - '0'.toNat)) 0

/-- The sign, digits and decimal exponent of the text of a real number. -/
def decimalParts (cs : List Char) : Bool × Nat × Int :=
  let (negative, cs) := match cs with
    | '-' :: r => (true, r)
    | '+' :: r => (false, r)
    | _ => (false, cs)
  let whole := cs.takeWhile Char.isDigit
  let cs := cs.drop whole.length
  let (fraction, cs) := match cs with
    | '.' :: r => (r.takeWhile Char.isDigit, r.drop (r.takeWhile Char.isDigit).length)
    | _ => ([], cs)
  let exponent : Int := match cs with
    | _ :: r =>
      match r with
      | '-' :: ds => -(digitsValue ds : Int)
      | '+' :: ds => digitsValue ds
      | ds => digitsValue ds
    | [] => 0
  let digits := digitsValue (whole ++ fraction)
  (negative, digits, exponent - fraction.length)

/-- A real number: decimal, `inf` or `nan`, with an optional sign. A decimal past the largest
finite number is refused. -/
def float (cs : List Char) : Step Value :=
  let s : Step Value := match floatText cs with
    | .done t r =>
      let (negative, n, e) := decimalParts (t.filter (· ≠ '_'))
      if overflows n e then .stop (Fault.at_ cs)
      else .done (.float (realText negative n e)) r
    | .stop f => .stop f
    | .miss _ =>
      let (sign, r) : String × List Char := match cs with
        | '+' :: r => ("", r)
        | '-' :: r => ("-", r)
        | _ => ("", cs)
      match r with
      | 'i' :: 'n' :: 'f' :: r' => .done (.float (sign ++ "inf")) r'
      | 'n' :: 'a' :: 'n' :: r' => .done (.float "NaN") r'
      | _ => .miss (Fault.at_ r)
  s.mapFault (·.labelled "floating-point number")

/-- Digits of a radix with single underscores between them, and their value. -/
def radixDigits (radix : Nat) : Nat → List Char → Nat → Step Nat
  | 0, cs, _ => .stop (exhausted cs)
  | fuel + 1, c :: r, acc =>
    match hexValue? c with
    | some d =>
      if d < radix then radixDigits radix fuel r (acc * radix + d) else .done acc (c :: r)
    | none =>
      if c = '_' then
        match r with
        | d :: r' =>
          match hexValue? d with
          | some v =>
            if v < radix then radixDigits radix fuel r' (acc * radix + v)
            else .stop ((Fault.at_ r).expecting "digit")
          | none => .stop ((Fault.at_ r).expecting "digit")
        | [] => .stop ((Fault.at_ []).expecting "digit")
      else .done acc (c :: r)
  | _ + 1, [], acc => .done acc []

def radixInt (radix : Nat) (label : String) (cs : List Char) : Step Value :=
  let first := match cs with
    | c :: r => match hexValue? c with
      | some d => if d < radix then some (d, r) else none
      | none => none
    | [] => none
  match first with
  | none => .stop ((Fault.at_ cs).labelled label)
  | some (d, r) =>
    match radixDigits radix (r.length + 1) r d with
    | .done n rest =>
      if n ≤ 9223372036854775807 then .done (.integer n) rest
      else .stop { left := cs.length, cause := some NumberError.tooLarge.text }
    | s => (s.mapFault (·.labelled label)).failed

/-- An integer: decimal, or hexadecimal, octal or binary after `0x`, `0o` or `0b`; it must fit
in 64 bits. -/
def integer (cs : List Char) : Step Value :=
  match cs with
  | '0' :: 'x' :: r => radixInt 16 "hexadecimal integer" r
  | '0' :: 'o' :: r => radixInt 8 "octal integer" r
  | '0' :: 'b' :: r => radixInt 2 "binary integer" r
  | _ =>
    match decInt cs with
    | .done t r =>
      match readWhole i64Min i64Max (String.ofList (t.filter (· ≠ '_'))) with
      | .ok n => .done (.integer n) r
      | .error e => .stop { left := cs.length, cause := some e.text }
    | s => s.failed

def fixedDigits : Nat → List Char → Nat → Option (Nat × List Char)
  | 0, cs, acc => some (acc, cs)
  | n + 1, c :: cs, acc =>
    if c.isDigit then fixedDigits n cs (acc * 10 + (c.toNat - '0'.toNat)) else none
  | _ + 1, [], _ => none

def pad2 (n : Nat) : String := if n < 10 then "0" ++ toString n else toString n

/-- The fault of a date or time field out of its range. -/
def outOfRange (cs : List Char) : Fault := { left := cs.length, cause := some "value is out of range" }

/-- Two digits within `[lo, hi]`: `none` when there are no two digits, `some none` when they are
out of range. -/
def field2 (lo hi : Nat) (cs : List Char) : Option (Option (Nat × List Char)) :=
  (fixedDigits 2 cs 0).map fun (v, r) => if lo ≤ v ∧ v ≤ hi then some (v, r) else none

/-- The nanoseconds of a fraction of a second: its first nine digits. -/
def nanosOf (ds : List Char) : Nat :=
  let ds := ds.take 9
  digitsValue (ds ++ List.replicate (9 - ds.length) '0')

/-- The text of a time of day; the fraction is written without trailing zeros. -/
def timeText (h m s nanos : Nat) : String :=
  pad2 h ++ ":" ++ pad2 m ++ ":" ++ pad2 s ++
    (if nanos = 0 then ""
     else
       let t := toString nanos
       let t := String.ofList (List.replicate (9 - t.length) '0') ++ t
       "." ++ String.ofList (t.toList.reverse.dropWhile (· = '0')).reverse)

/-- A time of day after its hour and colon: minute, colon, second, and an optional fraction. -/
def timeRest (h : Nat) (cs : List Char) : Step String :=
  match field2 0 59 cs with
  | none => .stop (Fault.at_ cs)
  | some none => .stop (outOfRange cs)
  | some (some (m, r)) =>
    match r with
    | ':' :: r' =>
      match field2 0 60 r' with
      | none => .stop (Fault.at_ r')
      | some none => .stop (outOfRange r')
      | some (some (s, r'')) =>
        match r'' with
        | '.' :: d :: r3 =>
          if d.isDigit then
            let ds := d :: r3.takeWhile Char.isDigit
            .done (timeText h m s (nanosOf ds)) (r3.drop (ds.length - 1))
          else .done (timeText h m s 0) r''
        | _ => .done (timeText h m s 0) r''
    | _ => .stop (Fault.at_ r)

def partialTime (cs : List Char) : Step String :=
  match field2 0 23 cs with
  | some (some (h, ':' :: r)) => timeRest h r
  | _ => .miss (Fault.at_ cs)

/-- An offset from UTC: `Z`, or a sign with hours and minutes within a day. -/
def timeOffset (cs : List Char) : Step String :=
  let s : Step String := match cs with
    | 'Z' :: r | 'z' :: r => .done "Z" r
    | c :: r =>
      if c = '+' ∨ c = '-' then
        match field2 0 23 r with
        | some (some (h, ':' :: r')) =>
          match field2 0 59 r' with
          | some (some (m, r'')) =>
            let minutes : Int := (if c = '-' then -1 else 1) * ((h * 60 + m : Nat) : Int)
            let sign := if minutes < 0 then "-" else "+"
            let a := minutes.natAbs
            .done (sign ++ pad2 (a / 60) ++ ":" ++ pad2 (a % 60)) r''
          | some none => .stop (outOfRange r')
          | none => .stop (Fault.at_ r')
        | some none => .stop (outOfRange r)
        | _ => .stop (Fault.at_ r)
      else .miss (Fault.at_ cs)
    | [] => .miss (Fault.at_ cs)
  s.mapFault (·.labelled "time offset")

def daysIn (year month : Nat) : Nat :=
  if month = 2 then
    if year % 4 = 0 ∧ (year % 100 ≠ 0 ∨ year % 400 = 0) then 29 else 28
  else if month = 4 ∨ month = 6 ∨ month = 9 ∨ month = 11 then 30 else 31

/-- A date, a date with a time and maybe an offset, or a time alone; kept as its text. -/
def dateTimeParts (cs : List Char) : Step Value :=
  match fixedDigits 4 cs 0 with
  | some (year, '-' :: r) =>
    match field2 1 12 r with
    | none => .stop (Fault.at_ r)
    | some none => .stop (outOfRange r)
    | some (some (month, r')) =>
      match r' with
      | '-' :: r'' =>
        match field2 1 31 r'' with
        | none => .stop (Fault.at_ r'')
        | some none => .stop (outOfRange r'')
        | some (some (day, r3)) =>
          if daysIn year month < day then .stop (outOfRange r'')
          else
            let date := String.ofList (cs.take 4) ++ "-" ++ pad2 month ++ "-" ++ pad2 day
            match r3 with
            | d :: r4 =>
              if d = 'T' ∨ d = 't' ∨ d = ' ' then
                match partialTime r4 with
                | .done t r5 =>
                  match timeOffset r5 with
                  | .done o r6 => .done (.datetime (date ++ "T" ++ t ++ o)) r6
                  | .miss _ => .done (.datetime (date ++ "T" ++ t)) r5
                  | .stop f => .stop f
                | .miss _ => .done (.datetime date) r3
                | .stop f => .stop f
              else .done (.datetime date) r3
            | [] => .done (.datetime date) r3
      | _ => .stop (Fault.at_ r')
  | _ =>
    match partialTime cs with
    | .done t r => .done (.datetime t) r
    | s => s.failed

/-- A date-time as `dateTimeParts` reads it; a fault inside names the date-time unless a part
names itself. -/
def dateTime (cs : List Char) : Step Value :=
  (dateTimeParts cs).mapFault (·.labelled "date-time")

/-- A value that starts with a sign or a digit: a date or time, a real number, or an integer. -/
def numberOrDate (cs : List Char) : Step Value :=
  match dateTime cs with
  | .miss _ =>
    match float cs with
    | .miss _ => integer cs
    | s => s
  | s => s

/-! ## Arrays and inline tables -/

/-- Why a document's structure is refused: a key given twice (in the table of the given path, or
with no table named), or a dotted key or header that would go into a value. -/
inductive Problem where
  | duplicateKey (key : String) (table : Option (List String))
  | extendWrongType (path : List String) (actual : String)
deriving Inhabited

/-- The message of a refusal of a document's structure. -/
def Problem.message : Problem → String
  | .duplicateKey k none => "duplicate key `" ++ k ++ "`"
  | .duplicateKey k (some []) => "duplicate key `" ++ k ++ "` in document root"
  | .duplicateKey k (some t) =>
    "duplicate key `" ++ k ++ "` in table `" ++ ".".intercalate t ++ "`"
  | .extendWrongType p a =>
    "dotted key `" ++ ".".intercalate p ++ "` attempted to extend non-table type (" ++ a ++ ")"

def lookup {α : Type} (pairs : List (String × α)) (k : String) : Option α :=
  (pairs.find? (·.1 == k)).map (·.2)

def replace {α : Type} (pairs : List (String × α)) (k : String) (v : α) : List (String × α) :=
  pairs.map fun (k', v') => if k' == k then (k, v) else (k', v')

/-- Adds a pair at a dotted path under an inline table: the tables on the way are made (marked
dotted) or entered, and anything else on the way is refused. A plain key may not go into a
dotted table, nor a dotted key into a table written out; `prefixEmpty` says whether the key is
plain, `dotted` is the mark of the table at hand and `seen` the parts walked. -/
def inlineInsert (prefixEmpty : Bool) (k : Key) (v : Value) :
    List Key → List Key → Bool → List (String × Value) → Except Problem (List (String × Value))
  | [], _, dotted, pairs =>
    if dotted == prefixEmpty then .error (.duplicateKey k.name none)
    else
      match lookup pairs k.name with
      | some _ => .error (.duplicateKey k.name none)
      | none => .ok (pairs ++ [(k.name, v)])
  | p :: ps, seen, _, pairs =>
    let here := seen ++ [p]
    match lookup pairs p.name with
    | none => do
      let inner ← inlineInsert prefixEmpty k v ps here true []
      pure (pairs ++ [(p.name, .inlineTable true inner)])
    | some (.inlineTable d inner) => do
      let inner ← inlineInsert prefixEmpty k v ps here d inner
      pure (replace pairs p.name (.inlineTable d inner))
    | some other => .error (.extendWrongType (here.map (·.name)) other.typeName)

/-- The items of an array, each between blanks, comments and line breaks, separated by commas;
a comma after the last item is allowed. -/
def arrayItems (item : List Char → Step Value) :
    Nat → List Char → List Value → Step (List Value)
  | 0, cs, _ => .stop (exhausted cs)
  | fuel + 1, cs, acc =>
    match item (gap cs) with
    | .done v r =>
      match gap r with
      | ',' :: r' => arrayItems item fuel r' (acc ++ [v])
      | r' => .done (acc ++ [v]) r'
    | .stop f => .stop f
    | .miss _ => .done acc cs

def array (item : List Char → Step Value) (cs : List Char) : Step Value :=
  match arrayItems item (cs.length + 1) cs [] with
  | .done items r =>
    match gap r with
    | ']' :: r' => .done (.array items) r'
    | r' => .stop (((Fault.at_ r').labelled "array").expecting (expectChar ']'))
  | s => s.failed

/-- The key/value pairs of an inline table, separated by commas; `back` is the input before the
comma that led here. -/
def inlinePairs (item : List Char → Step Value) :
    Nat → List Char → List Char → List (List Key × Value) → Step (List (List Key × Value))
  | 0, cs, _, _ => .stop (exhausted cs)
  | fuel + 1, cs, back, acc =>
    match key cs with
    | .done path r =>
      match r with
      | '=' :: r' =>
        match item (blanks r') with
        | .done v r'' =>
          match blanks r'' with
          | ',' :: r3 => inlinePairs item fuel r3 (',' :: r3) (acc ++ [(path, v)])
          | r3 => .done (acc ++ [(path, v)]) r3
        | s => s.cut.failed
      | _ => .stop (((Fault.at_ r).expecting (expectChar '.')).expecting (expectChar '='))
    | .stop f => .stop f
    | .miss _ => .done acc back

def inlineTable (item : List Char → Step Value) (cs : List Char) : Step Value :=
  match inlinePairs item (cs.length + 1) cs cs [] with
  | .done pairs r =>
    let built := pairs.foldlM (fun t (path, v) =>
      inlineInsert path.dropLast.isEmpty (path.getLastD default) v path.dropLast [] false t) []
    match built with
    | .error p => .stop { left := cs.length, cause := some p.message }
    | .ok t =>
      match blanks r with
      | '\x7d' :: r' => .done (.inlineTable false t) r'
      | r' => .stop (((Fault.at_ r').labelled "inline table").expecting (expectChar '\x7d'))
  | s => s.failed

def stringFault (cs : List Char) : Fault :=
  (((Fault.at_ cs).labelled "string").expecting (expectChar '"')).expecting (expectChar '\'')

def keyword (word : List Char) (v : Value) (cs : List Char) : Step Value :=
  if word.isPrefixOf cs then .done v (cs.drop word.length) else .miss (stringFault cs)

/-- A value, with the number of arrays and inline tables it may still open: one fewer than the
nesting limit at the top of a line. -/
def value : Nat → List Char → Step Value
  | _, [] => .miss (Fault.at_ [])
  | d, '[' :: r =>
    match d with
    | 0 => .stop { left := r.length, cause := some "recursion limit exceeded" }
    | d + 1 => array (value d) r
  | d, '\x7b' :: r =>
    match d with
    | 0 => .stop { left := r.length, cause := some "recursion limit exceeded" }
    | d + 1 => inlineTable (value d) r
  | _, c :: r =>
    let cs := c :: r
    if c = '"' ∨ c = '\'' then
      match string cs with
      | .done s r => .done (.string s) r
      | s => s.failed
    else if c = '+' ∨ c = '-' ∨ c.isDigit then numberOrDate cs
    else if c = '_' then (integer cs).mapFault (·.expecting "leading digit")
    else if c = '.' then (float cs).mapFault (·.expecting "leading digit")
    else if c = 't' then keyword "true".toList (.boolean true) cs
    else if c = 'f' then keyword "false".toList (.boolean false) cs
    else if c = 'i' then keyword "inf".toList (.float "inf") cs
    else if c = 'n' then keyword "nan".toList (.float "NaN") cs
    else .miss (stringFault cs)

/-! ## Documents -/

/-- An entry of a table of a document: a value, a table, or an array of tables. A table is
*implicit* when only the paths of headers or dotted keys made it, and *dotted* when dotted keys
did. -/
inductive Item where
  | value (v : Value)
  | table (implicit dotted : Bool) (items : List (String × Item))
  | arrayOfTables (tables : List (List (String × Item)))
deriving Inhabited

/-- Changes the table at a path under a table: the tables on the way are entered, or made
implicit (and marked dotted when `dotted`); an array of tables is entered at its last table, and
a value on the way is refused. `f` is given the mark of the table reached and its items; `seen`
is the parts walked and `mark` the mark of the table at hand. -/
def descend {β : Type} (dotted : Bool)
    (f : Bool → List (String × Item) → Except Problem (List (String × Item) × β)) :
    List Key → List Key → Bool → List (String × Item) → Except Problem (List (String × Item) × β)
  | [], _, mark, items => f mark items
  | p :: ps, seen, _, items =>
    let here := seen ++ [p]
    match lookup items p.name with
    | none => do
      let (inner, b) ← descend dotted f ps here dotted []
      pure (items ++ [(p.name, .table true dotted inner)], b)
    | some (.table i d inner) => do
      let (inner, b) ← descend dotted f ps here d inner
      pure (replace items p.name (.table i d inner), b)
    | some (.arrayOfTables ts) => do
      let (inner, b) ← descend dotted f ps here false (ts.getLastD [])
      pure (replace items p.name (.arrayOfTables (ts.dropLast ++ [inner])), b)
    | some (.value v) => .error (.extendWrongType (here.map (·.name)) v.typeName)

/-- The refusal of a header whose last part names something already there: the part as written,
in the table of the parts before it. -/
def duplicateAt (path : List Key) : Problem :=
  .duplicateKey (path.getLastD default).raw (some (path.dropLast.map (·.name)))

/-- A document being read: its tables, the table that key/value lines go to now and the path
of its header (none for the top), and whether that header opened an array of tables. The table
of the current header joins the document when the next header comes, or at the end. -/
structure Doc where
  root : List (String × Item) := []
  current : List (String × Item) := []
  path : List Key := []
  isArray : Bool := false
deriving Inhabited

namespace Doc

/-- Puts the current table into the document: the top table, the next table of an array, or a
table at its path. -/
def finalize (doc : Doc) : Except Problem Doc :=
  match doc.path.getLast? with
  | none => .ok { doc with root := doc.current, current := [] }
  | some k =>
    let placed := descend false (fun _ items =>
      match lookup items k.name, doc.isArray with
      | none, true => .ok (items ++ [(k.name, .arrayOfTables [doc.current])], ())
      | some (.arrayOfTables ts), true =>
        .ok (replace items k.name (.arrayOfTables (ts ++ [doc.current])), ())
      | none, false => .ok (items ++ [(k.name, .table false false doc.current)], ())
      | some (.table true _ _), false =>
        .ok (replace items k.name (.table false false doc.current), ())
      | _, _ => .error (duplicateAt doc.path)) doc.path.dropLast [] false doc.root
    placed.map fun (root, _) => { doc with root, current := [] }

/-- Opens the table of a `[header]`: a table only paths made so far becomes the current table;
anything else already there is refused. -/
def startTable (doc : Doc) (path : List Key) : Except Problem Doc := do
  let doc ← doc.finalize
  let k := path.getLastD default
  let (root, found) ← descend false (fun _ items =>
    .ok (items.filter (·.1 != k.name), lookup items k.name)) path.dropLast [] false doc.root
  let current ← match found with
    | none => pure []
    | some (.table true false items) => pure items
    | some _ => throw (duplicateAt path)
  pure { root, current, path, isArray := false }

/-- Opens the next table of a `[[header]]` array; anything but an array of tables already there
is refused. -/
def startArray (doc : Doc) (path : List Key) : Except Problem Doc := do
  let doc ← doc.finalize
  let k := path.getLastD default
  let (root, fits) ← descend false (fun _ items =>
    match lookup items k.name with
    | none => .ok (items ++ [(k.name, .arrayOfTables [])], true)
    | some (.arrayOfTables _) => .ok (items, true)
    | some _ => .ok (items, false)) path.dropLast [] false doc.root
  if !fits then throw (duplicateAt path)
  pure { root, current := [], path, isArray := true }

/-- Adds a key/value line to the current table. A plain key may not go into a dotted table, nor
a dotted key into a table written out; a key given twice is refused. -/
def addPair (doc : Doc) (prefix_ : List Key) (k : Key) (v : Value) : Except Problem Doc := do
  let (current, _) ← descend true (fun mark items =>
    if mark == prefix_.isEmpty then .error (.duplicateKey k.name none)
    else
      match lookup items k.name with
      | some _ => .error (.duplicateKey k.name (some (doc.path.map (·.name))))
      | none => .ok (items ++ [(k.name, .value v)], ())) prefix_ [] false doc.current
  pure { doc with current }

end Doc

mutual

def Value.setting : Value → Setting
  | .string s => .text s
  | .integer n => .whole n
  | .float t => .real t
  | .boolean b => .flag b
  | .datetime t => .text t
  | .array items => .list (Value.settings items)
  | .inlineTable _ pairs => .table (Value.fieldSettings pairs)

def Value.settings : List Value → List Setting
  | [] => []
  | v :: vs => v.setting :: Value.settings vs

def Value.fieldSettings : List (String × Value) → List (String × Setting)
  | [] => []
  | (k, v) :: ps => (k, v.setting) :: Value.fieldSettings ps

end

mutual

def Item.setting : Item → Setting
  | .value v => v.setting
  | .table _ _ items => .table (Item.fieldSettings items)
  | .arrayOfTables ts => .list (Item.tableSettings ts)

def Item.fieldSettings : List (String × Item) → List (String × Setting)
  | [] => []
  | (k, i) :: is => (k, i.setting) :: Item.fieldSettings is

def Item.tableSettings : List (List (String × Item)) → List Setting
  | [] => []
  | t :: ts => .table (Item.fieldSettings t) :: Item.tableSettings ts

end

/-- A fault whose cause is a refusal of the document's structure. -/
def structureFault (cs : List Char) (label : Option String) (p : Problem) : Fault :=
  { left := cs.length, label, cause := some p.message }

/-- A header line, after its opening bracket or brackets. -/
def header (doc : Doc) (start : List Char) (isArray : Bool) (cs : List Char) :
    Except Fault (Doc × List Char) := do
  let label := "table header"
  match key cs with
  | .done path r =>
    let closed := if isArray then (match r with | ']' :: ']' :: r' => some r' | _ => none)
                  else (match r with | ']' :: r' => some r' | _ => none)
    match closed with
    | none =>
      throw (((Fault.at_ r).expecting (expectChar '.')).expecting
        (if isArray then "`]]`" else "`]`") |>.labelled label)
    | some r' =>
      match lineTrailing r' with
      | .done _ rest =>
        let opened := if isArray then doc.startArray path else doc.startTable path
        match opened with
        | .ok doc => pure (doc, rest)
        | .error p => throw (structureFault start (some label) p)
      | .miss f | .stop f => throw (f.labelled label)
  | .miss f | .stop f => throw (f.labelled label)

def pairLine (doc : Doc) (cs : List Char) : Except Fault (Doc × List Char) := do
  match key cs with
  | .done path r =>
    match r with
    | '=' :: r' =>
      match value (nestingLimit - 1) (blanks r') with
      | .done v r'' =>
        match lineTrailing r'' with
        | .done _ rest =>
          match doc.addPair path.dropLast (path.getLastD default) v with
          | .ok doc => pure (doc, rest)
          | .error p => throw (structureFault cs none p)
        | .miss f | .stop f => throw f
      | .miss f | .stop f => throw f
    | _ => throw (((Fault.at_ r).expecting (expectChar '.')).expecting (expectChar '='))
  | .miss f | .stop f => throw f

def document : Nat → List Char → Doc → Except Fault Doc
  | 0, cs, _ => .error (exhausted cs)
  | fuel + 1, cs, doc =>
    match blanks cs with
    | [] => .ok doc
    | '#' :: r =>
      match lineTrailing ('#' :: r) with
      | .done _ rest => document fuel rest doc
      | .miss f | .stop f => .error f
    | '\n' :: r => document fuel r doc
    | '\r' :: '\n' :: r => document fuel r doc
    | '\r' :: r => .error (Fault.at_ ('\r' :: r))
    | '[' :: '[' :: r => do
      let (doc, rest) ← header doc ('[' :: '[' :: r) true r
      document fuel rest doc
    | '[' :: r => do
      let (doc, rest) ← header doc ('[' :: r) false r
      document fuel rest doc
    | line => do
      let (doc, rest) ← pairLine doc line
      document fuel rest doc

def spaces (n : Nat) : String := String.ofList (List.replicate n ' ')

/-- The line and column, from zero, of a position in a text; a position at the end counts one
past the last character. The column counts characters, but bytes when the character at the
position takes more than one byte: its first byte alone is no character to count. -/
def position (src : List Char) (index : Nat) : Nat × Nat :=
  if src.isEmpty then (0, index)
  else
    let safe := min index (src.length - 1)
    let before := src.take safe
    let lineStart := match (before.reverse.findIdx? (· = '\n')) with
      | some k => safe - k
      | none => 0
    let line := (src.take lineStart).count '\n'
    let column := match src[index]? with
      | some c =>
        if c.utf8Size > 1 then (String.ofList ((before.drop lineStart))).utf8ByteSize
        else safe - lineStart
      | none => safe - lineStart
    (line, column + (index - safe))

/-- The text of a fault in a document: where it is, the line with carets under the column,
and the message. The carets mark the character at the fault, one for each of its bytes, as far
as the line goes, and at least one. -/
def faultText (src : List Char) (f : Fault) : String :=
  let index := src.length - f.left
  let (line, column) := position src index
  let number := toString (line + 1)
  let content := String.ofList ((src.splitOn '\n').getD line [])
  let width := match src[index]? with
    | some c => min c.utf8Size (content.utf8ByteSize - column)
    | none => 0
  "TOML parse error at line " ++ number ++ ", column " ++ toString (column + 1) ++ "\n" ++
    spaces (number.length + 1) ++ "|\n" ++
    number ++ " | " ++ content ++ "\n" ++
    spaces (number.length + 1) ++ "|" ++ spaces (column + 1) ++
    String.ofList (List.replicate (max 1 width) '^') ++ "\n" ++
    f.message ++ "\n"

/-- Reads a TOML document into a table, or the text of its fault. -/
def read (text : String) : Except String Setting :=
  let src := text.toList
  let body := match src with
    | '\uFEFF' :: r => r
    | cs => cs
  match document (body.length + 1) body {} with
  | .ok doc =>
    match doc.finalize with
    | .ok doc => .ok (.table (Item.fieldSettings doc.root))
    | .error p => .error (p.message ++ "\n")
  | .error f => .error (faultText src f)

end Rebill.Settings.Toml
