import Rebill.Settings.Ron.Cursor
import Rebill.Settings.Ron.Value

/-!
# RON configuration files

A reader of RON documents into settings. A value is read by what comes first:

* the words `true` and `false`, `None`, `Some(v)`, `()` for the unit value, and `inf`, `-inf`
  and `NaN` for real numbers;
* an identifier: a struct `name(...)` or, with no parenthesis after it, the unit value;
* `(`: a struct `(field: value, ...)` when an identifier and a colon follow the parenthesis,
  and otherwise a tuple `(value, ...)`, read as a sequence;
* `[...]` a sequence and `\x7b key: value, ... \x7d` a map with keys of any kind;
* a number, a string (quoted or raw) or a character.

A comma may follow the last item of any of these. Nesting is limited: each collection and each
of its items take one of 128 levels, and so does the content of `Some`. An attribute
`#![enable(implicit_some)]` at the start lets a value stand for `Some` of itself after `Some`.

A refusal names the line and column where the reader was when it gave up: `line:column:
message`. A document that reads then becomes settings as `Value.setting` says.
-/

namespace Rebill.Settings.Ron

/-- How an extension's name is shown: in backticks, as a raw identifier when it holds a byte a
plain one may not. -/
def identifierShown (name : String) : String :=
  let bs := textBytes name
  if bs.isEmpty || !bs.all isIdentRaw then Text.debugQuote name ++ "_[invalid identifier]"
  else
    match bs with
    | b :: rest =>
      if isIdentFirst b && rest.all isIdentOther then "`" ++ name ++ "`"
      else "`r#" ++ name ++ "`"
    | [] => "`" ++ name ++ "`"

def ReadError.text : ReadError → String
  | .eof => "Unexpected end of RON"
  | .expectedAttribute => "Expected an `#![enable(...)]` attribute"
  | .expectedAttributeEnd => "Expected closing `)]` after the enable attribute"
  | .expectedComma => "Expected comma"
  | .expectedChar => "Expected char"
  | .expectedFloat => "Expected float"
  | .floatUnderscore => "Unexpected underscore in float"
  | .expectedInteger => "Expected integer"
  | .expectedOption => "Expected option"
  | .expectedOptionEnd => "Expected closing `)`"
  | .expectedMapColon => "Expected colon"
  | .expectedMapEnd => "Expected closing `\x7d`"
  | .expectedStructLikeEnd => "Expected closing `)`"
  | .expectedArrayEnd => "Expected closing `]`"
  | .expectedString => "Expected string"
  | .expectedStringEnd => "Expected end of string"
  | .expectedIdentifier => "Expected identifier"
  | .invalidEscape m => m
  | .integerOutOfBounds => "Integer is out of bounds"
  | .noSuchExtension name => "No RON extension named " ++ identifierShown name
  | .unclosedBlockComment => "Unclosed block comment"
  | .underscoreAtBeginning => "Unexpected leading underscore in an integer"
  | .unexpectedByte c => "Unexpected byte " ++ Text.debugCharQuote c
  | .trailingCharacters => "Non-whitespace trailing characters"
  | .exceededRecursionLimit =>
    "Exceeded recursion limit, try increasing `ron::Options::recursion_limit` and using " ++
      "`serde_stacker` to protect against a stack overflow"

/-- Runs a step one level of nesting deeper, with the levels left below it; refused when no
level is left. -/
def nested (limit : Nat) (step : (l : Nat) → l < limit → Read α) : Read α :=
  match limit with
  | 0 => throw .exceededRecursionLimit
  | l + 1 => step l (Nat.lt_succ_self l)

/-- Whether the next byte, after blanks, does not close a collection with `close`; refused
when there is none, and when items were not separated by a comma. -/
def hasElement (close : UInt8) (hadComma : Bool) : Read Bool := do
  skipWs
  let more := (← peekOrEof) != close
  if !hadComma && more then throw .expectedComma
  pure more

/-- Reads the items of a collection up to its closing byte `close`, each by `item`, after the
items `acc`; at most `fuel` more. -/
def items (close : UInt8) (item : Read Value) : Nat → Bool → List Value → Read (List Value)
  | 0, _, acc => pure acc
  | fuel + 1, hadComma, acc => do
    if !(← hasElement close hadComma) then return acc
    let v ← item
    let c ← comma
    items close item fuel c (acc ++ [v])

/-- Reads the entries of a collection up to its closing byte `close`, each a key by `key`, a
colon and a value by `value`, into the entries `acc`; at most `fuel` more. -/
def entries (close : UInt8) (key value : Read Value) :
    Nat → Bool → List (Value × Value) → Read (List (Value × Value))
  | 0, _, acc => pure acc
  | fuel + 1, hadComma, acc => do
    if !(← hasElement close hadComma) then return acc
    let k ← key
    skipWs
    if !(← consume ":") then throw .expectedMapColon
    skipWs
    let v ← value
    let c ← comma
    entries close key value fuel c (insertEntry k v acc)

def fieldName : Read Value := do pure (.string (bytesText (← identifier)))

/-- What a parenthesis starts, looked at without moving: `none` when there is none, else
whether it is a tuple rather than a struct. A struct's parenthesis is followed by an identifier
and a colon. -/
def parenKind : Read (Option Bool) := do
  if !(← consume "(") then return none
  skipWs
  match identifier.run (← get) with
  | .error _ _ => pure (some true)
  | .ok _ c =>
    set c
    skipWs
    pure (some ((← eatByte) != ':'.toUInt8))

/-- The number of bytes left, a bound on the items of a collection. -/
def budget : Read Nat := do pure ((← get).rest.length + 1)

/-- Reads a value with `limit` levels of nesting left; `implicitSome` tells whether a value may
stand for `Some` of itself. -/
def value (implicitSome : Bool) (limit : Nat) : Read Value := do
  if ← consumeIdent "true" then return .bool true
  if ← consumeIdent "false" then return .bool false
  if ← checkIdent "Some" then
    let opened ← if ← consume "Some" then do
        skipWs
        consume "("
      else pure false
    if opened then
      skipWs
      let v ← nested limit fun l _ => value implicitSome l
      let _ ← comma
      if ← consume ")" then return .option (some v) else throw .expectedOptionEnd
    else if implicitSome then
      return .option (some (← nested limit fun l _ => value implicitSome l))
    else throw .expectedOption
  if ← consumeIdent "None" then return .option none
  if ← consume "()" then return .unit
  if ← consumeIdent "inf" then return .float "inf"
  if ← consumeIdent "-inf" then return .float "-inf"
  if ← consumeIdent "NaN" then return .float "NaN"
  let start ← get
  let isIdent := match identifier.run start with
    | .ok _ _ => true
    | .error _ _ => false
  let structLike := fun (_ : Unit) => do
    match parenKind.run (← get) with
    | .error e _ => throw e
    | .ok none _ => pure Value.unit
    | .ok (some true) _ =>
      let _ ← consume "("
      let vs ← nested limit fun l _ => do
        items ')'.toUInt8 (nested l fun l' _ => value implicitSome l') (← budget) true []
      skipWs
      if ← consume ")" then pure (.seq vs) else throw .expectedStructLikeEnd
    | .ok (some false) _ =>
      let _ ← consume "("
      let es ← nested limit fun l _ => do
        entries ')'.toUInt8 fieldName (nested l fun l' _ => value implicitSome l') (← budget) true []
      skipWs
      if ← consume ")" then pure (.map es) else throw .expectedStructLikeEnd
  if isIdent then
    let _ ← identifier
    skipWs
    return ← structLike ()
  let b ← peekOrEof
  if b == '('.toUInt8 then structLike ()
  else if b == '['.toUInt8 then
    let _ ← consume "["
    let vs ← nested limit fun l _ => do
      items ']'.toUInt8 (nested l fun l' _ => value implicitSome l') (← budget) true []
    skipWs
    if ← consume "]" then pure (.seq vs) else throw .expectedArrayEnd
  else if b == '\x7b'.toUInt8 then
    let _ ← consume "\x7b"
    let es ← nested limit fun l _ => do
      entries '\x7d'.toUInt8 (value implicitSome l) (nested l fun l' _ => value implicitSome l')
        (← budget) true []
    skipWs
    if ← consume "\x7d" then pure (.map es) else throw .expectedMapEnd
  else if ('0'.toUInt8 ≤ b && b ≤ '9'.toUInt8) || b == '+'.toUInt8 || b == '-'.toUInt8 then
    match ← anyNum with
    | .whole n => pure (.integer n)
    | .real shown => pure (.float shown)
  else if b == '.'.toUInt8 then pure (.float (← float))
  else if b == '"'.toUInt8 || b == 'r'.toUInt8 then pure (.string (← string))
  else if b == '\''.toUInt8 then pure (.char (← char))
  else throw (.unexpectedByte (Char.ofNat b.toNat))
termination_by limit
decreasing_by all_goals omega

/-- Reads the attributes at the start of a document, after blanks: the extensions they
enable. -/
def attributes : Nat → List String → Read (List String)
  | 0, acc => pure acc
  | fuel + 1, acc => do
    let names ← extensions
    if names.isEmpty then pure acc
    else
      skipWs
      attributes fuel (acc ++ names)

/-- Reads a whole document: blanks, attributes, one value, and nothing after it but blanks. -/
def document : Read Value := do
  skipWs
  let exts ← attributes ((← get).rest.length + 1) []
  let v ← value (exts.contains "implicit_some") 128
  skipWs
  if !(← get).rest.isEmpty then throw .trailingCharacters
  pure v

/-- Reads a RON document into a setting, or the text of its refusal. -/
def read (text : String) : Except String Setting :=
  match document.run { rest := textBytes text } with
  | .ok v _ => v.setting
  | .error e c => .error (toString c.line ++ ":" ++ toString c.col ++ ": " ++ e.text)

end Rebill.Settings.Ron
