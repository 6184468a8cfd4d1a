import Rebill.Settings.Real
import Rebill.Text.Quoted

/-!
# Reading RON text byte by byte

The RON reader walks the UTF-8 bytes of a document with a `Cursor`: the bytes left, and the line
and column it counts, from one, a column being one byte. The count is kept apart from the bytes
on purpose. When the reader of numbers tries a whole number, fails and tries again as a real
number, it backs up the bytes but not the count, so a refusal after such a retry is placed as
far past the number as the two tries went together.

A step of the reader is a `Read`: it either gives a value and the cursor after it, or refuses
with a `ReadError` and the cursor where the refusal surfaced, which is where the document's
refusal is placed. This module holds the steps on bytes: blanks and comments (`//` to the end
of the line, and `/* */`, which nest), identifiers (raw ones as `r#name`), whole numbers in
bases 2, 8, 10 and 16 with `_` between digits, real numbers, quoted and raw strings,
characters, and the `#![enable(...)]` attributes at the start of a document.
-/

namespace Rebill.Settings.Ron

/-- Why a RON document does not read. -/
inductive ReadError where
  | eof
  | expectedAttribute
  | expectedAttributeEnd
  | expectedComma
  | expectedChar
  | expectedFloat
  | floatUnderscore
  | expectedInteger
  | expectedOption
  | expectedOptionEnd
  | expectedMapColon
  | expectedMapEnd
  | expectedStructLikeEnd
  | expectedArrayEnd
  | expectedString
  | expectedStringEnd
  | expectedIdentifier
  | invalidEscape (message : String)
  | integerOutOfBounds
  | noSuchExtension (name : String)
  | unclosedBlockComment
  | underscoreAtBeginning
  | unexpectedByte (c : Char)
  | trailingCharacters
  | exceededRecursionLimit
deriving DecidableEq, Repr, Inhabited

/-- Whether a byte may start an identifier: an ASCII letter or `_`. -/
def isIdentFirst (b : UInt8) : Bool :=
  ('a'.toUInt8 ≤ b && b ≤ 'z'.toUInt8) || ('A'.toUInt8 ≤ b && b ≤ 'Z'.toUInt8) || b == '_'.toUInt8

/-- Whether a byte may continue an identifier: one that may start it, or a digit. -/
def isIdentOther (b : UInt8) : Bool :=
  isIdentFirst b || ('0'.toUInt8 ≤ b && b ≤ '9'.toUInt8)

/-- Whether a byte may be part of a raw identifier: one that may continue an identifier, `.`,
`+` or `-`. -/
def isIdentRaw (b : UInt8) : Bool :=
  isIdentOther b || b == '.'.toUInt8 || b == '+'.toUInt8 || b == '-'.toUInt8

def isHexByte (b : UInt8) : Bool :=
  ('0'.toUInt8 ≤ b && b ≤ '9'.toUInt8) || ('a'.toUInt8 ≤ b && b ≤ 'f'.toUInt8) ||
    ('A'.toUInt8 ≤ b && b ≤ 'F'.toUInt8)

/-- Whether a byte may be part of a whole number: a hexadecimal digit or `_`. -/
def isIntByte (b : UInt8) : Bool := isHexByte b || b == '_'.toUInt8

/-- Whether a byte may be part of a real number: a digit, `.`, `e`, `E`, `+`, `-` or `_`. -/
def isFloatByte (b : UInt8) : Bool :=
  ('0'.toUInt8 ≤ b && b ≤ '9'.toUInt8) || b == '.'.toUInt8 || b == 'e'.toUInt8 ||
    b == 'E'.toUInt8 || b == '+'.toUInt8 || b == '-'.toUInt8 || b == '_'.toUInt8

/-- Whether a byte is a blank: space, tab, line feed or carriage return. -/
def isBlankByte (b : UInt8) : Bool :=
  b == ' '.toUInt8 || b == '\t'.toUInt8 || b == '\n'.toUInt8 || b == '\r'.toUInt8

def bytesText (bs : List UInt8) : String :=
  (String.fromUTF8? (ByteArray.mk bs.toArray)).getD ""

def textBytes (s : String) : List UInt8 := s.toUTF8.toList

/-- Where the reader is: the bytes left, and the line and column it counts. -/
structure Cursor where
  rest : List UInt8
  line : Nat := 1
  col : Nat := 1
deriving Inhabited

/-- A step of the reader. -/
abbrev Read := EStateM ReadError Cursor

/-- The cursor past one byte: a line feed starts a new line. At the end it stays. -/
def Cursor.next (c : Cursor) : Cursor :=
  match c.rest with
  | [] => c
  | b :: r =>
    if b == '\n'.toUInt8 then { rest := r, line := c.line + 1, col := 1 }
    else { rest := r, line := c.line, col := c.col + 1 }

/-- The cursor past `n` bytes, or past all of them when fewer are left. -/
def Cursor.skip (c : Cursor) : Nat → Cursor
  | 0 => c
  | n + 1 => (c.next).skip n

def peek : Read (Option UInt8) := do pure (← get).rest.head?

/-- The next byte; at the end, the refusal of an unexpected end. -/
def peekOrEof : Read UInt8 := do
  match (← get).rest with
  | b :: _ => pure b
  | [] => throw .eof

def advance (n : Nat) : Read Unit := modify (·.skip n)

def eatByte : Read UInt8 := do
  let b ← peekOrEof
  advance 1
  pure b

/-- Takes the next byte, refusing with `e` when it is not `b`. -/
def expectByte (b : UInt8) (e : ReadError) : Read Unit := do
  if (← eatByte) != b then throw e

def testFor (s : String) : Read Bool := do
  let bs := textBytes s
  pure ((← get).rest.take bs.length == bs)

/-- Moves past a text when the bytes left start with it. -/
def consume (s : String) : Read Bool := do
  if ← testFor s then
    advance (textBytes s).length
    pure true
  else pure false

/-- Whether the byte `i` places on may continue an identifier. -/
def identOtherAt (i : Nat) : Read Bool := do
  pure (((← get).rest[i]?).map isIdentOther |>.getD false)

/-- Whether the bytes left start with a word that is not followed by more of an identifier. -/
def checkIdent (s : String) : Read Bool := do
  pure ((← testFor s) && !(← identOtherAt (textBytes s).length))

/-- Moves past a word that is not followed by more of an identifier. -/
def consumeIdent (s : String) : Read Bool := do
  if ← checkIdent s then
    advance (textBytes s).length
    pure true
  else pure false

/-- The number of bytes left, from the next one on, that a predicate holds for. -/
def countWhile (p : UInt8 → Bool) : Read Nat := do
  pure ((← get).rest.takeWhile p).length

/-- Moves past the inside of a block comment whose `/*` is read, `level` comments deep. -/
def blockComment : Nat → Nat → Read Unit
  | 0, _ => throw .unclosedBlockComment
  | _ + 1, 0 => pure ()
  | fuel + 1, level + 1 => do
    let n ← countWhile fun b => b != '/'.toUInt8 && b != '*'.toUInt8
    if (← get).rest.isEmpty then throw .unclosedBlockComment
    advance n
    if ← consume "/*" then blockComment fuel (level + 2)
    else if ← consume "*/" then blockComment fuel level
    else
      match (← get).rest with
      | [] => throw .unclosedBlockComment
      | _ :: _ =>
        advance 1
        blockComment fuel (level + 1)

/-- Moves past a comment, telling whether there was one. A `/` that starts no comment is
refused. -/
def skipComment : Read Bool := do
  if ← consume "/" then
    let b ← eatByte
    if b == '/'.toUInt8 then
      advance (← countWhile (· != '\n'.toUInt8))
    else if b == '*'.toUInt8 then
      blockComment ((← get).rest.length + 2) 1
    else throw (.unexpectedByte (Char.ofNat b.toNat))
    pure true
  else pure false

def skipWs : Read Unit := do
  loop ((← get).rest.length + 1)
where
  /-- Moves on, at most `fuel` times, each time past blanks and then a comment. -/
  loop : Nat → Read Unit
    | 0 => pure ()
    | fuel + 1 => do
      advance (← countWhile isBlankByte)
      if ← skipComment then loop fuel

/-- Moves past a comma and the blanks around it, telling whether there was one. -/
def comma : Read Bool := do
  skipWs
  if ← consume "," then
    skipWs
    pure true
  else pure false

/-- Reads an identifier, or a raw identifier `r#name` as its name. `r"` starts no identifier,
and neither does `r#` before a byte a raw identifier cannot hold. -/
def identifier : Read (List UInt8) := do
  let next ← peekOrEof
  if !isIdentFirst next then throw .expectedIdentifier
  let rest := (← get).rest
  let length ← if next == 'r'.toUInt8 then
      match rest[1]? with
      | none => throw .eof
      | some b =>
        if b == '"'.toUInt8 then throw .expectedIdentifier
        else if b == '#'.toUInt8 then
          if !isIdentRaw (rest[2]?.getD 0) then throw .expectedIdentifier
          advance 2
          countWhile isIdentRaw
        else countWhile isIdentOther
    else countWhile isIdentOther
  let ident := (← get).rest.take length
  advance length
  pure ident

/-- Moves past each text in turn that the bytes left start with, and the blanks after it;
tells whether every one was there. Every text is tried, and the first refusal of blanks, if
any, is kept. -/
def consumeAll (all : List String) : Read Bool := do
  let mut ok := true
  let mut failure : Option ReadError := none
  for s in all do
    if ← consume s then
      match (skipWs).run (← get) with
      | .ok _ c => set c
      | .error e c =>
        set c
        if failure.isNone then failure := some e
    else ok := false
  match failure with
  | some e => throw e
  | none => pure ok

def extensionNames : List String := ["unwrap_newtypes", "implicit_some", "unwrap_variant_newtypes"]

def extensionList : Nat → List String → Read (List String)
  | 0, acc => pure acc
  | fuel + 1, acc => do
    let name := bytesText (← identifier)
    if !extensionNames.contains name then throw (.noSuchExtension name)
    let hadComma ← comma
    let more ← identOtherAt 0
    if !hadComma && more then throw .expectedComma
    if !hadComma || !more then pure (acc ++ [name])
    else extensionList fuel (acc ++ [name])

/-- Reads an `#![enable(...)]` attribute, if one comes next: the extensions it enables. -/
def extensions : Read (List String) := do
  if (← peek) != some '#'.toUInt8 then return []
  if !(← consumeAll ["#", "!", "[", "enable", "("]) then throw .expectedAttribute
  skipWs
  let names ← extensionList ((← get).rest.length + 1) []
  skipWs
  if ← consumeAll [")", "]"] then pure names else throw .expectedAttributeEnd

def hexValue (b : UInt8) : Read Nat :=
  if '0'.toUInt8 ≤ b && b ≤ '9'.toUInt8 then pure (b.toNat - '0'.toNat)
  else if 'a'.toUInt8 ≤ b && b ≤ 'f'.toUInt8 then pure (b.toNat - 'a'.toNat + 10)
  else if 'A'.toUInt8 ≤ b && b ≤ 'F'.toUInt8 then pure (b.toNat - 'A'.toNat + 10)
  else throw (.invalidEscape "Non-hex digit found")

/-- The value of digits in a base, between `lo` and `hi`, adding each digit (or subtracting it,
for a negative number); `_` is passed over. -/
def digitsValue (base : Nat) (negative : Bool) (lo hi : Int) : List UInt8 → Int → Read Int
  | [], acc => pure acc
  | b :: bs, acc => do
    if b == '_'.toUInt8 then digitsValue base negative lo hi bs acc
    else
      let acc := acc * base
      if acc < lo || acc > hi then throw .integerOutOfBounds
      let d ← hexValue b
      if d ≥ base then throw .expectedInteger
      let acc := if negative then acc - d else acc + d
      if acc < lo || acc > hi then throw .integerOutOfBounds
      digitsValue base negative lo hi bs acc

/-- Reads a whole number between `lo` and `hi`, after its sign: a `0x`, `0b` or `0o` prefix
picks the base. The digits are passed over even when they are refused. -/
def integerBody (negative : Bool) (lo hi : Int) : Read Int := do
  let rest := (← get).rest
  let base : Nat :=
    if rest.head? == some '0'.toUInt8 then
      match rest[1]? with
      | some b =>
        if b == 'x'.toUInt8 then 16 else if b == 'b'.toUInt8 then 2
        else if b == 'o'.toUInt8 then 8 else 10
      | none => 10
    else 10
  if base != 10 then advance 2
  let n ← countWhile isIntByte
  if n == 0 then throw .expectedInteger
  let digits := (← get).rest.take n
  if digits.head? == some '_'.toUInt8 then throw .underscoreAtBeginning
  let start ← get
  match (digitsValue base negative lo hi digits 0).run start with
  | .ok v _ =>
    advance n
    pure v
  | .error e _ =>
    advance n
    throw e

/-- Reads a signed 64-bit whole number, with an optional sign. -/
def signedInteger : Read Int := do
  let b ← peekOrEof
  if b == '+'.toUInt8 then
    advance 1
    integerBody false (-(Int.pow 2 63)) (Int.pow 2 63 - 1)
  else if b == '-'.toUInt8 then
    advance 1
    integerBody true (-(Int.pow 2 63)) (Int.pow 2 63 - 1)
  else integerBody false (-(Int.pow 2 63)) (Int.pow 2 63 - 1)

def unsignedInteger : Read Int := integerBody false 0 (Int.pow 2 64 - 1)

/-- Reads a real number: one of the words for infinity and not-a-number, or the bytes that may
be part of a number, which must read as a binary64 number and hold no `_`. Gives the text the
number shows as. -/
def float : Read String := do
  for w in ["inf", "+inf", "-inf", "NaN", "+NaN", "-NaN"] do
    if ← consumeIdent w then return (readReal? w).getD w
  let n ← countWhile isFloatByte
  let bs := (← get).rest.take n
  match bs.findIdx? (· == '_'.toUInt8) with
  | some i =>
    advance i
    throw .floatUnderscore
  | none =>
    advance n
    match readReal? (bytesText bs) with
    | some shown => pure shown
    | none => throw .expectedFloat

/-- Whether the number that comes next is a real number: the bytes that may be part of a real
number run further than those that may be part of a whole one. -/
def nextIsFloat : Read Bool := do
  let rest := (← get).rest
  let rest := match rest with
    | b :: r => if b == '+'.toUInt8 || b == '-'.toUInt8 then r else rest
    | [] => []
  pure ((rest.takeWhile isFloatByte).length > (rest.takeWhile isIntByte).length)

/-- A number as read: whole or real. -/
inductive Number where
  | whole (n : Int)
  | real (shown : String)
deriving Repr, Inhabited

/-- Reads a number. A whole number is tried first unless the bytes make it a real one; when the
whole number is refused, the bytes are backed up, but not the line and column, and the number is
read as a real one. An unsigned number past the signed 64-bit range is a real number. -/
def anyNum : Read Number := do
  let start ← get
  let first ← peekOrEof
  if ← nextIsFloat then return .real (← float)
  let whole := if first == '+'.toUInt8 || first == '-'.toUInt8 then signedInteger
    else unsignedInteger
  match whole.run start with
  | .ok v c =>
    set c
    if v > Int.pow 2 63 - 1 then pure (.real ((readReal? (toString v)).getD (toString v)))
    else pure (.whole v)
  | .error _ c =>
    set { c with rest := start.rest }
    pure (.real (← float))

def asciiEscape : Read Nat := do
  let hi ← hexValue (← eatByte)
  let lo ← hexValue (← eatByte)
  pure (hi * 16 + lo)

/-- Reads up to six hexadecimal digits of a `\u` escape, up to its `}`. -/
def unicodeDigits : Nat → Nat → Nat → Read (Nat × Nat)
  | 0, v, count => pure (v, count)
  | fuel + 1, v, count => do
    let b ← peekOrEof
    if b == '}'.toUInt8 then pure (v, count)
    else
      advance 1
      let d ← hexValue b
      unicodeDigits fuel (v * 16 + d) (count + 1)

/-- Reads an escape after its backslash: the character it stands for. -/
def parseEscape : Read Char := do
  let b ← eatByte
  if b == '\''.toUInt8 then pure '\''
  else if b == '"'.toUInt8 then pure '"'
  else if b == '\\'.toUInt8 then pure '\\'
  else if b == 'n'.toUInt8 then pure '\n'
  else if b == 'r'.toUInt8 then pure '\r'
  else if b == 't'.toUInt8 then pure '\t'
  else if b == '0'.toUInt8 then pure '\x00'
  else if b == 'x'.toUInt8 then pure (Char.ofNat (← asciiEscape))
  else if b == 'u'.toUInt8 then
    expectByte '\x7b'.toUInt8 (.invalidEscape "Missing \x7b in Unicode escape")
    let (v, count) ← unicodeDigits 6 0 0
    if count == 0 then
      throw (.invalidEscape "Expected 1-6 digits, got 0 digits in Unicode escape")
    expectByte '\x7d'.toUInt8 (.invalidEscape "No \x7d at the end of Unicode escape")
    if v < 0xD800 || (0xDFFF < v && v ≤ 0x10FFFF) then pure (Char.ofNat v)
    else throw (.invalidEscape "Not a valid char")
  else throw (.invalidEscape "Unknown escape character")

/-- The position of the first byte that is a backslash or a double quote. -/
def escapeOrEnd (bs : List UInt8) : Option Nat :=
  bs.findIdx? fun b => b == '\\'.toUInt8 || b == '"'.toUInt8

/-- Reads the rest of a quoted string with escapes, after the bytes `acc`, the next backslash or
quote being `i` bytes on. -/
def escapedRest : Nat → List UInt8 → Nat → Read String
  | 0, _, _ => throw .expectedStringEnd
  | fuel + 1, acc, i => do
    let atEnd := (← get).rest[i]? == some '"'.toUInt8
    advance (i + 1)
    if atEnd then pure (bytesText acc)
    else
      let c ← parseEscape
      let acc := acc ++ textBytes c.toString
      match escapeOrEnd (← get).rest with
      | none => throw .expectedStringEnd
      | some j => escapedRest fuel (acc ++ (← get).rest.take j) j

def escapedString : Read String := do
  let rest := (← get).rest
  match escapeOrEnd rest with
  | none => throw .expectedStringEnd
  | some i => escapedRest (rest.length + 1) (rest.take i) i

/-- The position of the first place the bytes start with `ending`. -/
def findEnding (ending : List UInt8) : Nat → List UInt8 → Option Nat
  | _, [] => none
  | i, bs@(_ :: rest) => if bs.take ending.length == ending then some i else findEnding ending (i + 1) rest

/-- Reads a raw string after its `r`: `#` marks, a quote, the text, a quote and as many marks. -/
def rawString : Read String := do
  let hashes ← countWhile (· == '#'.toUInt8)
  advance hashes
  if !(← consume "\"") then throw .expectedString
  let ending := '"'.toUInt8 :: List.replicate hashes '#'.toUInt8
  match findEnding ending 0 (← get).rest with
  | none => throw .expectedStringEnd
  | some i =>
    let s := bytesText ((← get).rest.take i)
    advance (i + hashes + 1)
    pure s

def string : Read String := do
  if ← consume "\"" then escapedString
  else if ← consume "r" then rawString
  else throw .expectedString

/-- Reads a character in single quotes: an escape, or one character within the next five
bytes. -/
def char : Read Char := do
  if !(← consume "'") then throw .expectedChar
  let b ← peekOrEof
  let c ← if b == '\\'.toUInt8 then
      advance 1
      parseEscape
    else
      let rest := (← get).rest
      match (rest.take 5).findIdx? (· == '\''.toUInt8) with
      | none => throw .expectedChar
      | some pos =>
        match (bytesText (rest.take pos)).toList with
        | [c] =>
          advance pos
          pure c
        | _ => throw .expectedChar
  if !(← consume "'") then throw .expectedChar
  pure c

end Rebill.Settings.Ron
