import Rebill.Json.Value

/-!
# Reading JSON text

`readJson` reads one JSON value from a text, with blanks (space, tab, line feed, carriage return)
around it. A text that is not JSON names the first fault met from the left and where it stands:
`JsonError.message` gives the fault and its line and column, the column counting bytes from the
start of the line. Strings must hold Unicode scalar values: an escaped surrogate must be a
leading one followed by an escaped trailing one. A number without point or exponent that fits
64 bits is whole; any other is a binary64 number computed in steps that each round, and one that
grows past the largest finite number is out of range. Arrays and objects nest at most 127 deep,
and an object keeps the last of two fields of one name.
-/

namespace Rebill

/-- The faults of a JSON text. -/
inductive JsonFault where
  | eofInList
  | eofInObject
  | eofInString
  | eofInValue
  | expectedColon
  | expectedListCommaOrEnd
  | expectedObjectCommaOrEnd
  | expectedIdent
  | expectedValue
  | invalidEscape
  | invalidNumber
  | numberOutOfRange
  | controlCharacter
  | keyMustBeString
  | loneSurrogate
  | trailingComma
  | trailingCharacters
  | unexpectedEndOfHexEscape
  | recursionLimit
deriving DecidableEq, Repr

namespace JsonFault

def text : JsonFault → String
  | .eofInList => "EOF while parsing a list"
  | .eofInObject => "EOF while parsing an object"
  | .eofInString => "EOF while parsing a string"
  | .eofInValue => "EOF while parsing a value"
  | .expectedColon => "expected `:`"
  | .expectedListCommaOrEnd => "expected `,` or `]`"
  | .expectedObjectCommaOrEnd => "expected `,` or `\x7d`"
  | .expectedIdent => "expected ident"
  | .expectedValue => "expected value"
  | .invalidEscape => "invalid escape"
  | .invalidNumber => "invalid number"
  | .numberOutOfRange => "number out of range"
  | .controlCharacter => "control character (\\u0000-\\u001F) found while parsing a string"
  | .keyMustBeString => "key must be a string"
  | .loneSurrogate => "lone leading surrogate in hex escape"
  | .trailingComma => "trailing comma"
  | .trailingCharacters => "trailing characters"
  | .unexpectedEndOfHexEscape => "unexpected end of hex escape"
  | .recursionLimit => "recursion limit exceeded"

end JsonFault

/-- A fault and the place it was found: a line from 1 and a column of bytes. -/
structure JsonError where
  fault : JsonFault
  line : Nat
  column : Nat
deriving DecidableEq, Repr

/-- The fault with its place. -/
def JsonError.message (e : JsonError) : String :=
  e.fault.text ++ " at line " ++ toString e.line ++ " column " ++ toString e.column

namespace JsonReading

/-- The text as bytes, with the reading position. -/
structure Cursor where
  bytes : Array UInt8
  pos : Nat

/-- The place of a byte index: its line, and its column in bytes from the start of the line. -/
def placeOf (bs : Array UInt8) (i : Nat) : Nat × Nat :=
  let before := (bs.extract 0 i).toList
  let lines := before.count 10
  let lastBreak := before.reverse.findIdx? (· == 10)
  (lines + 1, match lastBreak with
    | some k => k
    | none => i)

def faultHere (c : Cursor) (f : JsonFault) : JsonError :=
  let (l, col) := placeOf c.bytes c.pos
  ⟨f, l, col⟩

/-- A fault at the byte after the current position (the one being looked at). -/
def faultAhead (c : Cursor) (f : JsonFault) : JsonError :=
  let (l, col) := placeOf c.bytes (min c.bytes.size (c.pos + 1))
  ⟨f, l, col⟩

def peek (c : Cursor) : Option UInt8 := c.bytes[c.pos]?

def next (c : Cursor) : Cursor := { c with pos := c.pos + 1 }

def left (c : Cursor) : Nat := c.bytes.size - c.pos

def skipBlanks (c : Cursor) : Cursor :=
  go c (left c)
where
  go (c : Cursor) : Nat → Cursor
    | 0 => c
    | n + 1 => match peek c with
      | some b => if b == 32 || b == 10 || b == 9 || b == 13 then go (next c) n else c
      | none => c

def keyword (c : Cursor) (rest : List UInt8) : Except JsonError (Unit × Cursor) :=
  match rest with
  | [] => .ok ((), c)
  | b :: bs => match peek c with
    | none => .error (faultHere c .eofInValue)
    | some x => if x == b then keyword (next c) bs else .error (faultHere (next c) .expectedIdent)

def hexValue (b : UInt8) : Option Nat :=
  if 48 ≤ b ∧ b ≤ 57 then some (b.toNat - 48)
  else if 97 ≤ b ∧ b ≤ 102 then some (b.toNat - 87)
  else if 65 ≤ b ∧ b ≤ 70 then some (b.toNat - 55)
  else none

def hex4 (c : Cursor) : Except JsonError (Nat × Cursor) :=
  if left c < 4 then .error (faultHere { c with pos := c.bytes.size } .eofInString)
  else
    let ds := [c.bytes.getD c.pos 0, c.bytes.getD (c.pos + 1) 0, c.bytes.getD (c.pos + 2) 0,
      c.bytes.getD (c.pos + 3) 0]
    let c' := { c with pos := c.pos + 4 }
    match ds.mapM hexValue with
    | some [a, b, d, e] => .ok (((a * 16 + b) * 16 + d) * 16 + e, c')
    | _ => .error (faultHere c' .invalidEscape)

/-- Reads a `\u` escape, with its trailing surrogate when it is a leading one. -/
def unicodeEscape (c : Cursor) : Except JsonError (Char × Cursor) := do
  let (n, c) ← hex4 c
  if 0xDC00 ≤ n ∧ n ≤ 0xDFFF then throw (faultHere c .loneSurrogate)
  if n < 0xD800 ∨ n > 0xDBFF then return (Char.ofNat n, c)
  match peek c with
  | none => throw (faultHere c .eofInString)
  | some b =>
    if b != 92 then throw (faultHere (next c) .unexpectedEndOfHexEscape)
    let c := next c
    match peek c with
    | none => throw (faultHere c .eofInString)
    | some u =>
      if u != 117 then throw (faultHere (next c) .unexpectedEndOfHexEscape)
      let (n2, c) ← hex4 (next c)
      if n2 < 0xDC00 ∨ n2 > 0xDFFF then throw (faultHere c .loneSurrogate)
      return (Char.ofNat ((n - 0xD800) * 1024 + (n2 - 0xDC00) + 0x10000), c)

/-- Reads the rest of a string after its opening quote; the bytes of its text. -/
def stringBody (c : Cursor) : Except JsonError (List UInt8 × Cursor) :=
  go c [] (left c + 1)
where
  go (c : Cursor) (acc : List UInt8) : Nat → Except JsonError (List UInt8 × Cursor)
    | 0 => .error (faultHere c .eofInString)
    | fuel + 1 =>
      match peek c with
      | none => .error (faultHere c .eofInString)
      | some b =>
        if b == 34 then .ok (acc.reverse, next c)
        else if b == 92 then
          let c := next c
          match peek c with
          | none => .error (faultHere c .eofInString)
          | some e =>
            let c := next c
            let simple : Option UInt8 :=
              if e == 34 then some 34 else if e == 92 then some 92 else if e == 47 then some 47
              else if e == 98 then some 8 else if e == 102 then some 12
              else if e == 110 then some 10 else if e == 114 then some 13
              else if e == 116 then some 9 else none
            match simple with
            | some v => go c (v :: acc) fuel
            | none =>
              if e == 117 then
                match unicodeEscape c with
                | .ok (ch, c) => go c ((String.singleton ch).toUTF8.toList.reverse ++ acc) fuel
                | .error err => .error err
              else .error (faultHere c .invalidEscape)
        else if b < 32 then .error (faultHere (next c) .controlCharacter)
        else go (next c) (b :: acc) fuel

def textOf (bs : List UInt8) : String := (String.fromUTF8? ⟨bs.toArray⟩).getD ""

def digitAt (c : Cursor) : Option Nat :=
  match peek c with
  | some b => if 48 ≤ b ∧ b ≤ 57 then some (b.toNat - 48) else none
  | none => none

def skipDigits (c : Cursor) : Cursor :=
  go c (left c)
where
  go (c : Cursor) : Nat → Cursor
    | 0 => c
    | n + 1 => match digitAt c with
      | some _ => go (next c) n
      | none => c

def passes (a d limit : Nat) : Bool :=
  a ≥ limit / 10 && (a > limit / 10 || d > limit % 10)

/-- The bound of a significand: the largest unsigned 64-bit number. -/
def significandLimit : Nat := Nat.pow 2 64 - 1

/-- The bound of an exponent: the largest signed 32-bit number. -/
def exponentLimit : Nat := Nat.pow 2 31 - 1

def clampExponent (e : Int) : Int := max (-(Int.pow 2 31)) (min (Int.pow 2 31 - 1) e)

def signed (negative : Bool) (f : Binary64) : Binary64 := { f with negative := negative }

/-- The steps of `fromParts` after the significand is rounded: a power of ten of at most 308
multiplies or divides; past it, a zero is done, a growing value is out of range, and a
shrinking one is divided by `10 ^ 308` and tried again. Two divisions bring any significand to
zero, so three steps always end. -/
def scaleByTen (c : Cursor) (negative : Bool) (f : Binary64) (e : Int) : Nat → Except JsonError Binary64
  | 0 => .ok (signed negative f)
  | fuel + 1 =>
    if e.natAbs ≤ 308 then
      if 0 ≤ e then
        match f.mul (Binary64.powTen e.toNat) with
        | some g => .ok (signed negative g)
        | none => .error (faultHere c .numberOutOfRange)
      else .ok (signed negative ((f.div (Binary64.powTen e.natAbs)).getD (Binary64.zero false)))
    else if f.isZero then .ok (signed negative f)
    else if 0 ≤ e then .error (faultHere c .numberOutOfRange)
    else scaleByTen c negative ((f.div (Binary64.powTen 308)).getD (Binary64.zero false)) (e + 308) fuel

/-- The binary64 value of `± significand * 10 ^ exponent` as a reader of doubles without
exact rounding computes it: the significand is rounded first, then scaled by rounded powers of
ten, each step rounded again. -/
def fromParts (c : Cursor) (negative : Bool) (significand : Nat) (exponent : Int) :
    Except JsonError Binary64 :=
  scaleByTen c negative ((Binary64.ofNat false significand).getD (Binary64.zero false)) exponent 3

/-- The digits of an exponent after its first one; `exp` is their value so far. A value past
the exponent bound is out of range when the number grows, and zero when it shrinks or its
significand is zero. -/
def exponentDigits (c : Cursor) (negative positive : Bool) (significand : Nat) (start : Int)
    (exp : Nat) : Nat → Except JsonError (Binary64 × Cursor)
  | 0 =>
    let e := if positive then start + exp else start - exp
    (fromParts c negative significand (clampExponent e)).map (·, c)
  | fuel + 1 =>
    match digitAt c with
    | some d =>
      let c := next c
      if passes exp d exponentLimit then
        if significand ≠ 0 ∧ positive then .error (faultHere c .numberOutOfRange)
        else .ok (Binary64.zero negative, skipDigits c)
      else exponentDigits c negative positive significand start (exp * 10 + d) fuel
    | none =>
      let e := if positive then start + exp else start - exp
      (fromParts c negative significand (clampExponent e)).map (·, c)

/-- Reads an exponent from its `e` on and gives the value of the number. -/
def exponentPart (c : Cursor) (negative : Bool) (significand : Nat) (start : Int) :
    Except JsonError (Binary64 × Cursor) :=
  let c := next c
  let (positive, c) := match peek c with
    | some 43 => (true, next c)
    | some 45 => (false, next c)
    | _ => (true, c)
  match peek c with
  | none => .error (faultHere c .eofInValue)
  | some b =>
    let c := next c
    if 48 ≤ b ∧ b ≤ 57 then
      exponentDigits c negative positive significand start (b.toNat - 48) (left c)
    else .error (faultHere c .invalidNumber)

/-- Reads an optional exponent and gives the value of the number. -/
def exponentOrDone (c : Cursor) (negative : Bool) (significand : Nat) (exponent : Int) :
    Except JsonError (Binary64 × Cursor) :=
  match peek c with
  | some 101 | some 69 => exponentPart c negative significand exponent
  | _ => (fromParts c negative significand exponent).map (·, c)

/-- The digits after a point; `taken` counts those in the significand. Digits past the
significand bound are dropped. At least one digit must follow the point. -/
def fractionDigits (c : Cursor) (negative : Bool) (significand : Nat) (before : Int) (taken : Nat) :
    Nat → Except JsonError (Binary64 × Cursor)
  | 0 => exponentOrDone c negative significand (before - taken)
  | fuel + 1 =>
    match digitAt c with
    | some d =>
      if passes significand d significandLimit then
        exponentOrDone (skipDigits c) negative significand (before - taken)
      else fractionDigits (next c) negative (significand * 10 + d) before (taken + 1) fuel
    | none =>
      if taken = 0 then
        match peek c with
        | some _ => .error (faultAhead c .invalidNumber)
        | none => .error (faultAhead c .eofInValue)
      else exponentOrDone c negative significand (before - taken)

/-- Reads a fraction from its point on and gives the value of the number. -/
def fractionPart (c : Cursor) (negative : Bool) (significand : Nat) (before : Int) :
    Except JsonError (Binary64 × Cursor) :=
  fractionDigits (next c) negative significand before 0 (left c)

/-- The digits of a whole part past the significand bound: each raises the exponent. -/
def longDigits (c : Cursor) (negative : Bool) (significand : Nat) (exponent : Nat) :
    Nat → Except JsonError (Binary64 × Cursor)
  | 0 => (fromParts c negative significand exponent).map (·, c)
  | fuel + 1 =>
    match peek c with
    | some 46 => fractionPart c negative significand exponent
    | some 101 | some 69 => exponentPart c negative significand exponent
    | _ => match digitAt c with
      | some _ => longDigits (next c) negative significand (exponent + 1) fuel
      | none => (fromParts c negative significand exponent).map (·, c)

/-- A number without point or exponent: a whole number when it fits 64 bits; a negative one
from `-2 ^ 63` on, so that `-0` is the binary64 zero with its sign. -/
def wholeOrReal (negative : Bool) (significand : Nat) : JsonNumber :=
  if !negative then .whole significand
  else if 1 ≤ significand ∧ significand ≤ Nat.pow 2 63 then .whole (-(significand : Int))
  else .real ((Binary64.ofNat true significand).getD (Binary64.zero true))

def afterWhole (c : Cursor) (negative : Bool) (significand : Nat) :
    Except JsonError (JsonNumber × Cursor) :=
  match peek c with
  | some 46 => (fractionPart c negative significand 0).map fun (x, c) => (.real x, c)
  | some 101 | some 69 => (exponentPart c negative significand 0).map fun (x, c) => (.real x, c)
  | _ => .ok (wholeOrReal negative significand, c)

def wholeDigits (c : Cursor) (negative : Bool) (significand : Nat) :
    Nat → Except JsonError (JsonNumber × Cursor)
  | 0 => afterWhole c negative significand
  | fuel + 1 =>
    match digitAt c with
    | some d =>
      if passes significand d significandLimit then
        (longDigits c negative significand 0 (left c)).map fun (x, c) => (.real x, c)
      else wholeDigits (next c) negative (significand * 10 + d) fuel
    | none => afterWhole c negative significand

/-- Reads a number after its optional minus sign. A leading zero stands alone. -/
def number (c : Cursor) (negative : Bool) : Except JsonError (JsonNumber × Cursor) :=
  match peek c with
  | none => .error (faultHere c .eofInValue)
  | some b =>
    let c := next c
    if b == 48 then
      match digitAt c with
      | some _ => .error (faultAhead c .invalidNumber)
      | none => afterWhole c negative 0
    else if 49 ≤ b ∧ b ≤ 57 then wholeDigits c negative (b.toNat - 48) (left c)
    else .error (faultHere c .invalidNumber)

mutual

/-- Reads a value; `depth` counts the open arrays and objects. -/
def value (c : Cursor) (depth fuel : Nat) : Except JsonError (Json × Cursor) :=
  match fuel with
  | 0 => .error (faultHere c .recursionLimit)
  | fuel + 1 =>
    let c := skipBlanks c
    match peek c with
    | none => .error (faultAhead c .eofInValue)
    | some b =>
      if b == 110 then (keyword (next c) [117, 108, 108]).map (fun (_, c) => (.null, c))
      else if b == 116 then (keyword (next c) [114, 117, 101]).map (fun (_, c) => (.bool true, c))
      else if b == 102 then
        (keyword (next c) [97, 108, 115, 101]).map (fun (_, c) => (.bool false, c))
      else if b == 45 then (number (next c) true).map (fun (n, c) => (.number n, c))
      else if 48 ≤ b ∧ b ≤ 57 then (number c false).map (fun (n, c) => (.number n, c))
      else if b == 34 then
        (stringBody (next c)).map (fun (bs, c) =>
          (.string (textOf bs), c))
      else if b == 91 then
        if depth ≥ 127 then .error (faultHere (next c) .recursionLimit)
        else items (next c) depth true [] fuel
      else if b == 123 then
        if depth ≥ 127 then .error (faultHere (next c) .recursionLimit)
        else fields (next c) depth true [] fuel
      else .error (faultAhead c .expectedValue)

/-- Reads the items of an array after its opening bracket. -/
def items (c : Cursor) (depth : Nat) (first : Bool) (acc : List Json) (fuel : Nat) : Except JsonError (Json × Cursor) :=
  match fuel with
  | 0 => .error (faultHere c .recursionLimit)
  | fuel + 1 =>
    let c := skipBlanks c
    match peek c with
    | none => .error (faultAhead c .eofInList)
    | some b =>
      if b == 93 then .ok (.array acc.reverse, next c)
      else
        let go := fun (c : Cursor) =>
          match value c (depth + 1) fuel with
          | .ok (v, c) => items c depth false (v :: acc) fuel
          | .error e => .error e
        if first then go c
        else if b == 44 then
          let c := skipBlanks (next c)
          match peek c with
          | some 93 => .error (faultAhead c .trailingComma)
          | some _ => go c
          | none => .error (faultAhead c .eofInValue)
        else .error (faultAhead c .expectedListCommaOrEnd)

/-- Reads the fields of an object after its opening brace. -/
def fields (c : Cursor) (depth : Nat) (first : Bool) (acc : List (String × Json)) (fuel : Nat) :
    Except JsonError (Json × Cursor) :=
  match fuel with
  | 0 => .error (faultHere c .recursionLimit)
  | fuel + 1 =>
    let c := skipBlanks c
    match peek c with
    | none => .error (faultAhead c .eofInObject)
    | some b =>
      if b == 125 then .ok (.object (acc.foldr (fun (k, v) fs => Json.setField k v fs) []), next c)
      else
        let go := fun (c : Cursor) =>
          match stringBody (next c) with
          | .error e => .error e
          | .ok (kb, c) =>
            let key := textOf kb
            let c := skipBlanks c
            match peek c with
            | none => .error (faultAhead c .eofInObject)
            | some 58 =>
              match value (next c) (depth + 1) fuel with
              | .ok (v, c) => fields c depth false ((key, v) :: acc) fuel
              | .error e => .error e
            | some _ => .error (faultAhead c .expectedColon)
        if first then
          if b == 34 then go c else .error (faultAhead c .keyMustBeString)
        else if b == 44 then
          let c := skipBlanks (next c)
          match peek c with
          | some 34 => go c
          | some 125 => .error (faultAhead c .trailingComma)
          | some _ => .error (faultAhead c .keyMustBeString)
          | none => .error (faultAhead c .eofInValue)
        else .error (faultAhead c .expectedObjectCommaOrEnd)

end

end JsonReading

open JsonReading in
/-- Reads one JSON value filling the whole text but for blanks. -/
def readJson (s : String) : Except JsonError Json := do
  let c : Cursor := ⟨s.toUTF8.data, 0⟩
  let (v, c) ← value c 0 (2 * s.utf8ByteSize + 2)
  let c := skipBlanks c
  match peek c with
  | some _ => throw (faultAhead c .trailingCharacters)
  | none => pure v

end Rebill
