import Rebill.Settings.Tree
import Rebill.Settings.Number
import Rebill.Text.Unicode

/-!
# JSON5 configuration files

A reader of JSON5 documents into settings. The grammar is read as a parsing expression grammar:
each choice takes its first alternative that matches, and blanks and comments (`//` to the end
of the line, `/* */`) may stand between the tokens of objects, arrays and the document, but not
inside strings, names or numbers. Keys are names (letters, `$`, `_`, then also digits, marks and
connectors, with `\u` escapes) or strings; strings take single or double quotes, escapes and
escaped line ends; numbers take a sign, hex digits, a leading or trailing point, an exponent,
`Infinity` and `NaN`; objects and arrays may end with a comma.

A document that does not read is refused where reading got furthest: the reader notes, for the
named parts of the grammar (`null`, `boolean`, `string`, `number`, `object`, `array`,
`identifier`, the kinds of escape and of character, and the end of input), each position at
which one of them failed, keeping only those at the furthest position. A part whose own failure
is explained by exactly one part inside it, failing at the same position, is not noted itself.
The refusal shows that position's line and column, the line with a mark under the position, and
the noted parts in grammar order.

A document that reads is then turned into settings, and the first value that does not convert
refuses it: a number without a point, without an exponent (hex digits aside) and not infinite
or `NaN` is a whole number of 64 bits, a hex one of 32 bits; any other number is a binary64
number and must be finite; an escape must name a character.
-/

namespace Rebill.Settings.Json5

open Rebill.Text

/-- The named parts of the grammar, whose failures are reported, in the order a report lists
them. -/
inductive Rule where
  | endOfInput
  | array
  | boolean
  | charEscapeSequence
  | charLiteral
  | hexEscapeSequence
  | identifier
  | nulEscapeSequence
  | null
  | number
  | object
  | string
  | unicodeEscapeSequence
deriving DecidableEq, Repr, Inhabited

namespace Rule

def index : Rule → Nat
  | .endOfInput => 0
  | .array => 1
  | .boolean => 2
  | .charEscapeSequence => 3
  | .charLiteral => 4
  | .hexEscapeSequence => 5
  | .identifier => 6
  | .nulEscapeSequence => 7
  | .null => 8
  | .number => 9
  | .object => 10
  | .string => 11
  | .unicodeEscapeSequence => 12

def name : Rule → String
  | .endOfInput => "EOI"
  | .array => "array"
  | .boolean => "boolean"
  | .charEscapeSequence => "char_escape_sequence"
  | .charLiteral => "char_literal"
  | .hexEscapeSequence => "hex_escape_sequence"
  | .identifier => "identifier"
  | .nulEscapeSequence => "nul_escape_sequence"
  | .null => "null"
  | .number => "number"
  | .object => "object"
  | .string => "string"
  | .unicodeEscapeSequence => "unicode_escape_sequence"

end Rule

/-- The furthest position at which named parts failed, and those parts, in the order they
failed. -/
structure Furthest where
  pos : Nat := 0
  rules : List Rule := []
deriving Repr, Inhabited

namespace Furthest

def countAt (f : Furthest) (p : Nat) : Nat := if f.pos = p then f.rules.length else 0

/-- Notes that a part tried at `p` failed, given what was noted before it was tried: unless
exactly one failure at `p` was noted while it ran, the failures noted at `p` while it ran give
way to it, and it is noted when `p` is as far as any failure. -/
def fail (before now : Furthest) (r : Rule) (p : Nat) : Furthest :=
  let prev := before.countAt p
  let curr := now.countAt p
  if prev < curr ∧ curr - prev = 1 then now
  else
    let keep := if before.pos = p then before.rules.length else 0
    let now := if p = now.pos then { now with rules := now.rules.take keep } else now
    if now.pos < p then { pos := p, rules := [r] }
    else if p = now.pos then { now with rules := now.rules ++ [r] }
    else now

end Furthest

/-- A reading step: it notes failures as it goes, and may fail. -/
abbrev Scan := OptionT (StateM Furthest)

/-- Runs a step for a named part at `p`, noting its failure. -/
def reported (r : Rule) (p : Nat) (body : Scan α) : Scan α := OptionT.mk do
  let before ← get
  match ← body.run with
  | some x => pure (some x)
  | none =>
    modify fun now => Furthest.fail before now r p
    pure none

/-- A step that succeeds exactly when a condition holds. -/
def require (b : Bool) : Scan Unit := if b then pure () else failure

/-- A piece of the text of a string or a name: a character as written, a one-character escape
with the character it stands for and the character written after the backslash, or the code of
a `\x` or a `\u` escape with its digits as written. -/
inductive Piece where
  | char (c : Char)
  | escape (c : Char) (written : Char)
  | byte (n : Nat) (digits : String)
  | unit (n : Nat) (digits : String)
deriving DecidableEq, Repr, Inhabited

/-- The text a piece is written as, its backslash and escape letter aside. -/
def Piece.written : Piece → String
  | .char c => c.toString
  | .escape _ w => w.toString
  | .byte _ ds => ds
  | .unit _ ds => ds

/-- A document as read, before it is turned into settings. -/
inductive Node where
  | null
  | bool (b : Bool)
  | string (pieces : List Piece)
  | number (text : String)
  | array (items : List Node)
  | object (members : List (List Piece × Node))
deriving Repr, Inhabited

def isLineTerminator (c : Char) : Bool :=
  c == '\n' || c == '\r' || c == '\u2028' || c == '\u2029'

def isBlank (c : Char) : Bool :=
  c == '\t' || c == '\x0b' || c == '\x0c' || c == '\uFEFF' || Unicode.isSpaceSeparator c ||
    isLineTerminator c

/-- Whether a character is escaped by itself or by a letter naming a control character. -/
def isSingleEscape (c : Char) : Bool :=
  c == '\'' || c == '"' || c == '\\' || c == 'b' || c == 'f' || c == 'n' || c == 'r' ||
    c == 't' || c == 'v'

def escaped (c : Char) : Char :=
  match c with
  | 'b' => '\x08'
  | 'f' => '\x0c'
  | 'n' => '\n'
  | 'r' => '\r'
  | 't' => '\t'
  | 'v' => '\x0b'
  | c => c

def hexDigit? (c : Char) : Option Nat :=
  if '0' ≤ c ∧ c ≤ '9' then some (c.toNat - '0'.toNat)
  else if 'a' ≤ c ∧ c ≤ 'f' then some (c.toNat - 'a'.toNat + 10)
  else if 'A' ≤ c ∧ c ≤ 'F' then some (c.toNat - 'A'.toNat + 10)
  else none

section Grammar

variable (src : Array Char)

/-- Whether the text at `p` begins with the characters `cs`. -/
def startsAt (p : Nat) (cs : List Char) : Bool :=
  cs.zipIdx.all fun (c, i) => src[p + i]? == some c

def charIs (p : Nat) (test : Char → Bool) : Bool :=
  match src[p]? with
  | some c => test c
  | none => false

/-- The position after the first `*/` at or after `q`, searching at most `fuel` places. -/
def blockEnd : Nat → Nat → Option Nat
  | 0, _ => none
  | fuel + 1, q =>
    if src.size ≤ q + 1 then none
    else if startsAt src q ['*', '/'] then some (q + 2)
    else blockEnd fuel (q + 1)

/-- The position of the first line end at or after `q`, or the end of the text. -/
def lineEnd : Nat → Nat → Nat
  | 0, q => q
  | fuel + 1, q => if charIs src q (fun c => !isLineTerminator c) then lineEnd fuel (q + 1) else q

/-- The position after a comment that starts at `p`, if one does. -/
def commentEnd? (p : Nat) : Option Nat :=
  if startsAt src p ['/', '*'] then blockEnd src src.size (p + 2)
  else if startsAt src p ['/', '/'] then some (lineEnd src src.size (p + 2))
  else none

def skipFrom : Nat → Nat → Nat
  | 0, p => p
  | fuel + 1, p =>
    if charIs src p isBlank then skipFrom fuel (p + 1)
    else match commentEnd? src p with
      | some q => skipFrom fuel q
      | none => p

def skip (p : Nat) : Nat := skipFrom src (src.size + 1) p

/-- A character of a string or name at `p`: anything but a backslash or a line end. -/
def charLiteral (p : Nat) : Scan (Nat × Char) :=
  reported .charLiteral p do
    let some c := src[p]? | failure
    require (c != '\\' && !isLineTerminator c)
    pure (p + 1, c)

def charEscape (p : Nat) : Scan (Nat × Piece) :=
  reported .charEscapeSequence p do
    let some c := src[p]? | failure
    if isSingleEscape c then pure (p + 1, .escape (escaped c) c)
    else do
      require (!c.isDigit && c != 'x' && c != 'u' && !isLineTerminator c)
      pure (p + 1, .escape c c)

/-- The escape of the NUL character after a backslash at `p`. -/
def nulEscape (p : Nat) : Scan (Nat × Piece) :=
  reported .nulEscapeSequence p do
    require (src[p]? == some '0')
    pure (p + 1, .escape '\x00' '0')

def hexValueAt (p : Nat) : Nat → Option Nat
  | 0 => some 0
  | n + 1 => do
    let d ← src[p]? >>= hexDigit?
    let rest ← hexValueAt (p + 1) n
    pure (d * Nat.pow 16 n + rest)

/-- A code of `n` hex digits at `p`, as the named part `r`: a `\u` escape for four digits, a
`\x` escape for two. -/
def hexEscape (r : Rule) (n p : Nat) : Scan (Nat × Piece) :=
  reported r p do
    let some v := hexValueAt src p n | failure
    let digits := String.ofList ((List.range n).filterMap fun i => src[p + i]?)
    pure (p + n, if n == 4 then .unit v digits else .byte v digits)

def escapeSequence (p : Nat) : Scan (Nat × Piece) :=
  charEscape src p <|> nulEscape src p <|>
    (do require (src[p]? == some 'x'); hexEscape src .hexEscapeSequence 2 (p + 1)) <|>
    (do require (src[p]? == some 'u'); hexEscape src .unicodeEscapeSequence 4 (p + 1))

/-- An escaped line end at `p`: a backslash, then a line end, CR LF counting as one. -/
def lineContinuation (p : Nat) : Option Nat :=
  if src[p]? != some '\\' then none
  else if startsAt src (p + 1) ['\r', '\n'] then some (p + 3)
  else if charIs src (p + 1) isLineTerminator then some (p + 2)
  else none

/-- A character of a string quoted by `q` at `p`: an escape, an escaped line end, which stands
for nothing, or any other character but the quote. -/
def quotedChar (q : Char) (p : Nat) : Scan (Nat × Option Piece) :=
  (do
    require (src[p]? == some '\\')
    let (p', piece) ← escapeSequence src (p + 1)
    pure (p', some piece)) <|>
  (match lineContinuation src p with
   | some p' => pure (p', none)
   | none => failure) <|>
  (do
    require (src[p]? != some q)
    let (p', c) ← charLiteral src p
    pure (p', some (.char c)))

/-- The characters of a string quoted by `q` from `p`, as many as read. -/
def quotedChars (q : Char) : Nat → Nat → List Piece → StateM Furthest (Nat × List Piece)
  | 0, p, acc => pure (p, acc)
  | fuel + 1, p, acc => do
    match ← (quotedChar src q p).run with
    | some (p', piece) => quotedChars q fuel p' (acc ++ piece.toList)
    | none => pure (p, acc)

def stringAt (p : Nat) : Scan (Nat × List Piece) :=
  reported .string p <|
    (do
      require (src[p]? == some '"')
      let (q, pieces) ← OptionT.lift (quotedChars src '"' (src.size + 1) (p + 1) [])
      require (src[q]? == some '"')
      pure (q + 1, pieces)) <|>
    (do
      require (src[p]? == some '\'')
      let (q, pieces) ← OptionT.lift (quotedChars src '\'' (src.size + 1) (p + 1) [])
      require (src[q]? == some '\'')
      pure (q + 1, pieces))

/-- The first character of a name at `p`: a letter, `$` or `_`, or a `\u` escape. -/
def nameStart (p : Nat) : Scan (Nat × Piece) :=
  (do
    require (charIs src p fun c => Unicode.isLetter c || c == '$' || c == '_')
    let (p', c) ← charLiteral src p
    pure (p', .char c)) <|>
  (do
    require (startsAt src p ['\\', 'u'])
    hexEscape src .unicodeEscapeSequence 4 (p + 2))

/-- A later character of a name at `p`: one that may start it, a mark, a digit, a connector,
or a zero-width joiner or non-joiner. -/
def namePart (p : Nat) : Scan (Nat × Piece) :=
  nameStart src p <|>
  (do
    require (charIs src p fun c => Unicode.isNonspacingMark c || Unicode.isDiacritic c ||
      Unicode.isDecimalDigit c || Unicode.isConnector c || c == '\u200C' || c == '\u200D')
    let (p', c) ← charLiteral src p
    pure (p', .char c))

/-- The later characters of a name from `p`, as many as read. -/
def nameParts : Nat → Nat → List Piece → StateM Furthest (Nat × List Piece)
  | 0, p, acc => pure (p, acc)
  | fuel + 1, p, acc => do
    match ← (namePart src p).run with
    | some (p', piece) => nameParts fuel p' (acc ++ [piece])
    | none => pure (p, acc)

def identifierAt (p : Nat) : Scan (Nat × List Piece) :=
  reported .identifier p do
    let (q, first) ← nameStart src p
    OptionT.lift (nameParts src (src.size + 1) q [first])

def digitsEnd : Nat → Nat → Nat
  | 0, p => p
  | fuel + 1, p => if charIs src p Char.isDigit then digitsEnd fuel (p + 1) else p

/-- The position after one or more ASCII digits at `p`. -/
def someDigits (p : Nat) : Option Nat :=
  if charIs src p Char.isDigit then some (digitsEnd src src.size p) else none

/-- The position after a decimal integer at `p`: `0`, or digits not starting with `0`. -/
def decimalInteger (p : Nat) : Option Nat :=
  if src[p]? == some '0' then some (p + 1)
  else if charIs src p Char.isDigit then some (digitsEnd src src.size p)
  else none

/-- The position after an exponent at `p`, or `p` when none is there. -/
def exponentEnd (p : Nat) : Nat :=
  if charIs src p (fun c => c == 'e' || c == 'E') then
    let q := if charIs src (p + 1) (fun c => c == '+' || c == '-') then p + 2 else p + 1
    (someDigits src q).getD p
  else p

/-- The position after the hex digits of a hex literal at `p`. -/
def hexDigitsEnd : Nat → Nat → Nat
  | 0, p => p
  | fuel + 1, p =>
    if charIs src p (fun c => (hexDigit? c).isSome) then hexDigitsEnd fuel (p + 1) else p

/-- The position after a number's digits at `p`, without its sign. -/
def numericEnd (p : Nat) : Option Nat :=
  let hex :=
    if src[p]? == some '0' && charIs src (p + 1) (fun c => c == 'x' || c == 'X') &&
        charIs src (p + 2) (fun c => (hexDigit? c).isSome) then
      some (hexDigitsEnd src src.size (p + 2))
    else none
  let withPoint := (decimalInteger src p).bind fun q =>
    if src[q]? == some '.' then some (exponentEnd src (digitsEnd src src.size (q + 1))) else none
  let leadingPoint :=
    if src[p]? == some '.' then (someDigits src (p + 1)).map (exponentEnd src) else none
  let plain := (decimalInteger src p).map (exponentEnd src)
  let word :=
    if startsAt src p "Infinity".toList then some (p + 8)
    else if startsAt src p "NaN".toList then some (p + 3) else none
  hex <|> withPoint <|> leadingPoint <|> plain <|> word

def numberAt (p : Nat) : Scan (Nat × String) :=
  reported .number p do
    let q := if charIs src p (fun c => c == '+' || c == '-') then p + 1 else p
    let some r := numericEnd src q | failure
    pure (r, String.ofList (src.extract p r).toList)

def wordAt (r : Rule) (w : String) (p : Nat) : Scan Nat :=
  reported r p do
    require (startsAt src p w.toList)
    pure (p + w.length)

def booleanAt (p : Nat) : Scan (Nat × Bool) :=
  reported .boolean p <|
    (do require (startsAt src p "true".toList); pure (p + 4, true)) <|>
    (do require (startsAt src p "false".toList); pure (p + 5, false))

/-- The later items of a list or members of an object from `p`, each after a comma, read by
`one`. -/
def moreOf (one : Nat → Scan (Nat × α)) : Nat → Nat → List α → StateM Furthest (Nat × List α)
  | 0, p, acc => pure (p, acc)
  | fuel + 1, p, acc => do
    let s := skip src p
    if src[s]? != some ',' then pure (p, acc)
    else match ← (one (skip src (s + 1))).run with
      | some (p', x) => moreOf one fuel p' (acc ++ [x])
      | none => pure (p, acc)

/-- A bracketed sequence at `p` between `opening` and `closing`, of items read by `one` and
separated by commas, with an optional comma at the end, as the named part `r`. -/
def bracketed (r : Rule) (opening closing : Char) (one : Nat → Scan (Nat × α)) (p : Nat) :
    Scan (Nat × List α) :=
  reported r p <|
    (do
      require (src[p]? == some opening)
      let q := skip src (p + 1)
      require (src[q]? == some closing)
      pure (q + 1, [])) <|>
    (do
      require (src[p]? == some opening)
      let (q, first) ← one (skip src (p + 1))
      let (q, rest) ← OptionT.lift (moreOf src one (src.size + 1) q [])
      let s := skip src q
      let s := if src[s]? == some ',' then skip src (s + 1) else s
      require (src[s]? == some closing)
      pure (s + 1, first :: rest))

/-- A member of an object at `p`: a name or a string, a colon, and a value read by `value`. -/
def memberAt (value : Nat → Scan (Nat × Node)) (p : Nat) : Scan (Nat × (List Piece × Node)) := do
  let (q, key) ← identifierAt src p <|> stringAt src p
  let s := skip src q
  require (src[s]? == some ':')
  let (r, v) ← value (skip src (s + 1))
  pure (r, (key, v))

/-- A value at `p`, with objects and arrays nested at most `depth` deep. -/
def valueAt : Nat → Nat → Scan (Nat × Node)
  | 0, _ => failure
  | depth + 1, p =>
    (do let q ← wordAt src .null "null" p; pure (q, .null)) <|>
    (do let (q, b) ← booleanAt src p; pure (q, .bool b)) <|>
    (do let (q, s) ← stringAt src p; pure (q, .string s)) <|>
    (do let (q, t) ← numberAt src p; pure (q, .number t)) <|>
    (do
      let (q, ms) ← bracketed src .object '\x7b' '\x7d' (memberAt src (valueAt depth)) p
      pure (q, .object ms)) <|>
    (do let (q, items) ← bracketed src .array '[' ']' (valueAt depth) p; pure (q, .array items))

/-- A whole document: a value with blanks and comments around it. -/
def documentAt : Scan Node := do
  let (q, v) ← valueAt src (src.size + 1) (skip src 0)
  let r := skip src q
  let _ ← reported .endOfInput r (require (r == src.size))
  pure v

end Grammar

/-- The line and column of a position, from 1; CR LF ends one line. -/
def lineColumn (cs : List Char) : Nat × Nat :=
  go cs 1 1
where
  /-- Counts from the given line and column. -/
  go : List Char → Nat → Nat → Nat × Nat
    | [], l, c => (l, c)
    | '\r' :: '\n' :: rest, l, _ => go rest (l + 1) 1
    | '\n' :: rest, l, _ => go rest (l + 1) 1
    | _ :: rest, l, c => go rest l (c + 1)

/-- The line a position lies on as shown in a report: line ends are dropped, or shown as `␍`
and `␊` when the position is at one. -/
def shownLine (src : List Char) (p : Nat) : String :=
  let start := (src.take p).length - ((src.take p).reverse.takeWhile (· != '\n')).length
  let rest := src.drop start
  let upto := rest.takeWhile (· != '\n')
  let line := if upto.length < rest.length then upto ++ ['\n'] else upto
  let atEnd := match src[p]? with
    | some c => c == '\n' || c == '\r'
    | none => false
  if atEnd then
    String.join (line.map fun c => if c == '\r' then "␍" else if c == '\n' then "␊" else c.toString)
  else String.ofList (line.filter fun c => c != '\r' && c != '\n')

/-- Names listed in a report: `a`, `a or b`, `a, b, or c`. -/
def listed (names : List String) : String :=
  match names with
  | [a] => a
  | [a, b] => a ++ " or " ++ b
  | _ => ", ".intercalate names.dropLast ++ ", or " ++ names.getLastD ""

def report (src : List Char) (f : Furthest) : String :=
  let (line, column) := lineColumn (src.take f.pos)
  let names := ((List.range 13).filterMap fun i =>
    (f.rules.find? (·.index == i)).map Rule.name)
  let message := if names.isEmpty then "unknown parsing error" else "expected " ++ listed names
  let text := shownLine src f.pos
  let number := toString line
  let pad := String.ofList (List.replicate number.length ' ')
  let mark := String.ofList ((text.toList.take (column - 1)).map fun c =>
    if c == '\t' then '\t' else ' ') ++ "^---"
  pad ++ "--> " ++ number ++ ":" ++ toString column ++ "\n" ++
  pad ++ " |\n" ++
  number ++ " | " ++ text ++ "\n" ++
  pad ++ " | " ++ mark ++ "\n" ++
  pad ++ " |\n" ++
  pad ++ " = " ++ message

/-- The value of a text read as a hexadecimal number, as the pieces after a lead surrogate are
read. -/
def hexText? (s : String) : Option Nat :=
  let cs := match s.toList with
    | '+' :: r => r
    | r => r
  if cs.isEmpty then none
  else cs.foldlM (fun acc c => (hexDigit? c).map (acc * 16 + ·)) 0

def isTrail (n : Nat) : Bool := 0xDC00 ≤ n && n ≤ 0xDFFF

def isLead (n : Nat) : Bool := 0xD800 ≤ n && n ≤ 0xDBFF

/-- The code a lead and a trail surrogate stand for. The lead's bits and the trail's offset past
the planes are joined bit by bit, so a lead from `D840` on loses the carry into the planes. -/
def pairCode (lead trail : Nat) : Nat :=
  ((lead - 0xD800) * 1024) ||| ((trail - 0xDC00) + 0x10000)

/-- The text of a string or name after the text `acc`. A `\u` escape of a lead surrogate takes
the piece after it, read as hex digits, as its trail surrogate; a trail surrogate anywhere else
is refused. -/
def piecesText (acc : String) : List Piece → Except String String
  | [] => .ok acc
  | .char c :: rest | .escape c _ :: rest => piecesText (acc.push c) rest
  | .byte n _ :: rest => piecesText (acc.push (Char.ofNat n)) rest
  | .unit n _ :: rest =>
    if isTrail n then .error "unexpected unicode trail surrogate"
    else if isLead n then
      match rest with
      | [] => .error "missing unicode trail surrogate"
      | next :: rest =>
        match hexText? next.written with
        | none => .error "error parsing hex"
        | some m =>
          if isTrail m then
            piecesText (acc.push (Char.ofNat (pairCode n m))) rest
          else .error "unexpected unicode trail surrogate"
    else piecesText (acc.push (Char.ofNat n)) rest

/-- Whether a number's text is hex: `0x` or `0X` and more. -/
def isHexText (s : String) : Bool :=
  s.length > 2 && (s.startsWith "0x" || s.startsWith "0X")

def numberSetting (s : String) : Except String Setting :=
  let whole := !s.contains '.' && (isHexText s || (!s.contains 'e' && !s.contains 'E')) &&
    s != "Infinity" && s != "-Infinity" && s != "NaN" && s != "-NaN"
  if whole then
    if isHexText s then
      let v := (s.toList.drop 2).foldl (fun a c => a * 16 + (hexDigit? c).getD 0) 0
      if v < Nat.pow 2 32 then .ok (.whole v) else .error "error parsing hex"
    else match readWhole i64Min i64Max s with
      | .ok n => .ok (.whole n)
      | .error _ => .error "error parsing integer"
  else if s == "Infinity" then .ok (.real "inf")
  else if s == "-Infinity" then .ok (.real "-inf")
  else if s == "NaN" || s == "-NaN" then .ok (.real "NaN")
  else match readReal? s with
    | some t => if t.endsWith "inf" then .error "error parsing number: too large" else .ok (.real t)
    | none => .error "error parsing number"

mutual

/-- The setting of a value read, or the refusal of its first value that does not convert. -/
def Node.setting : Node → Except String Setting
  | .null => .ok .nil
  | .bool b => .ok (.flag b)
  | .string ps => (piecesText "" ps).map .text
  | .number t => numberSetting t
  | .array items => (Node.settings items).map .list
  | .object ms =>
    (Node.memberSettings ms).map fun kvs =>
      .table (kvs.foldl (fun acc (k, v) => Setting.setField acc k v) [])

def Node.settings : List Node → Except String (List Setting)
  | [] => .ok []
  | n :: rest => do
    let v ← n.setting
    let vs ← Node.settings rest
    pure (v :: vs)

/-- The settings of the members of an object, in order, each key before its value. -/
def Node.memberSettings : List (List Piece × Node) → Except String (List (String × Setting))
  | [] => .ok []
  | (k, n) :: rest => do
    let k ← piecesText "" k
    let v ← n.setting
    let vs ← Node.memberSettings rest
    pure ((k, v) :: vs)

end

/-- Reads a JSON5 document into a setting, or the text of its refusal. -/
def read (text : String) : Except String Setting :=
  let src := text.toList.toArray
  match (documentAt src).run.run {} with
  | (some v, _) => v.setting
  | (none, f) => .error (report text.toList f)

end Rebill.Settings.Json5
