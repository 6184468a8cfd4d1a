/-!
# Decimal amounts

A `Decimal` is a sign, a mantissa below 2^96 and a scale of at most 28: the value is the
mantissa divided by 10^scale. The scale is kept, so `1.50` and `1.5` are different texts of one
value, and zero carries no sign.

`Decimal.read` reads the decimal notation: an optional sign, digits with at most one point, and
underscores between digits. A text of 18 bytes or more is checked for size: digits past the 28th
place after the point are rounded away at the first of them (half up), and a mantissa that would
reach 2^96 is refused before the point and rounded after it; the digits rounded away must still
be digits. A text that is not a plain decimal may be one with an exponent, `1e5` or `2.5E-3`.
`Decimal.text` writes the mantissa with exactly `scale` digits after the point.
-/

namespace Rebill

/-- A decimal number: `mantissa / 10 ^ scale`, negative when `negative` holds. -/
structure Decimal where
  mantissa : Nat
  scale : Nat
  negative : Bool
deriving DecidableEq, Repr, Inhabited

/-- Why a text is not a decimal. -/
inductive DecimalError where
  | empty
  | unknownCharacter
  | twoDecimalPoints
  | leadingSeparator
  | noDigits
  | tooManyDigits
  | overflowAfterRounding
  | failedToParse
  | scaleTooLarge (scale : Nat)
  | exceedsMaximum
deriving DecidableEq, Repr

namespace DecimalError

def message : DecimalError → String
  | .empty => "Invalid decimal: empty"
  | .unknownCharacter => "Invalid decimal: unknown character"
  | .twoDecimalPoints => "Invalid decimal: two decimal points"
  | .leadingSeparator => "Invalid decimal: must start lead with a number"
  | .noDigits => "Invalid decimal: no digits found"
  | .tooManyDigits => "Invalid decimal: overflow from too many digits"
  | .overflowAfterRounding => "Invalid decimal: overflow from mantissa after rounding"
  | .failedToParse => "Failed to parse"
  | .scaleTooLarge s => "Scale exceeds the maximum precision allowed: " ++ toString s ++ " > 28"
  | .exceedsMaximum => "Number exceeds maximum value that can be represented."

end DecimalError

namespace Decimal

def mantissaBound : Nat := Nat.pow 2 96

def maxScale : Nat := 28

/-- Texts at least this long in bytes are checked for size. -/
def checkedLength : Nat := 18

def make (m s : Nat) (neg : Bool) : Decimal := ⟨m, s, neg && m != 0⟩

/-- The error for a character that cannot stand where it stands. -/
def misplaced (c : Char) : DecimalError :=
  if c = '.' then .twoDecimalPoints else if c = '_' then .leadingSeparator else .unknownCharacter

/-- Checks that the characters after the rounded digit are digits or separators. -/
def restIsDigits : List Char → Except DecimalError Unit
  | [] => .ok ()
  | c :: rest => if c.isDigit ∨ c = '_' then restIsDigits rest else .error (misplaced c)

/-- Rounds at the digit `c` that follows the last kept one; the characters after it are
dropped, but must be digits or separators. -/
def roundAt (m : Nat) (c : Char) (rest : List Char) (s : Nat) (neg : Bool) :
    Except DecimalError Decimal :=
  let digit? : Option Nat :=
    if c.isDigit then some (c.toNat - '0'.toNat) else if c = '_' then some 0 else none
  match digit? with
  | none => .error (misplaced c)
  | some d => do
    let r ←
      if d ≥ 5 then
        if m + 1 ≥ mantissaBound then
          if s = 0 then .error .overflowAfterRounding
          else .ok (make ((m + 1 + 4) / 10) (s - 1) neg)
        else .ok (make (m + 1) s neg)
      else .ok (make m s neg)
    restIsDigits rest
    pure r

/-- The state of reading: a point seen, the sign, a digit seen, at the first character,
whether sizes are checked, the mantissa and the scale so far. -/
structure Reader where
  point : Bool
  negative : Bool
  hasDigit : Bool
  first : Bool
  checked : Bool
  mantissa : Nat
  scale : Nat

def readFrom : List Char → Reader → Except DecimalError Decimal
  | [], r => if r.hasDigit then .ok (make r.mantissa r.scale r.negative) else .error .noDigits
  | c :: rest, r =>
    if c.isDigit then
      let d := c.toNat - '0'.toNat
      let m := r.mantissa * 10 + d
      if m ≥ mantissaBound then
        if r.point then roundAt r.mantissa c rest r.scale r.negative else .error .tooManyDigits
      else
        let s := if r.point then r.scale + 1 else r.scale
        match rest with
        | [] => .ok (make m s r.negative)
        | n :: more =>
          if r.point ∧ r.checked ∧ s ≥ maxScale then roundAt m n more s r.negative
          else readFrom rest { r with hasDigit := true, first := false, mantissa := m, scale := s }
    else if c = '.' ∧ !r.point then readFrom rest { r with point := true, first := false }
    else if c = '-' ∧ r.first ∧ !r.hasDigit then
      readFrom rest { r with negative := true, first := false }
    else if c = '+' ∧ r.first ∧ !r.hasDigit then readFrom rest { r with first := false }
    else if c = '_' ∧ r.hasDigit then readFrom rest { r with first := false }
    else .error (misplaced c)

/-- Reads a decimal in the plain notation described above. -/
def readPlain (s : String) : Except DecimalError Decimal :=
  match s.toList with
  | [] => .error .empty
  | cs => readFrom cs ⟨false, false, false, true, s.utf8ByteSize ≥ checkedLength, 0, 0⟩

/-- An exponent: digits with an optional plus sign, below `2 ^ 32`. -/
def exponentOf? (cs : List Char) : Option Nat :=
  let ds := match cs with
    | '+' :: rest => rest
    | _ => cs
  if ds.isEmpty ∨ !ds.all Char.isDigit then none
  else
    let v := ds.foldl (fun a c => a * 10 + (c.toNat - '0'.toNat)) 0
    if v < Nat.pow 2 32 then some v else none

/-- Reads `base e exponent`: the base in the plain notation, then the scale raised by a negative
exponent, to at most 28, or lowered by a positive one. An exponent past the scale makes the
number whole: the mantissa grows by the rest of the exponent, which may not pass 28, and must
stay below 2^96. An exponent that is not a 32-bit number fails the text. -/
def readScientific (s : String) : Except DecimalError Decimal :=
  let cs := s.toList
  let base := cs.takeWhile (fun c => c ≠ 'e' ∧ c ≠ 'E')
  match cs.drop base.length with
  | [] => .error .failedToParse
  | _ :: exp => do
    let d ← readPlain (String.ofList base)
    match exp with
    | '-' :: rest =>
      match exponentOf? rest with
      | none => .error .failedToParse
      | some e =>
        if d.scale + e > maxScale then .error (.scaleTooLarge (d.scale + e))
        else pure { d with scale := d.scale + e }
    | _ =>
      match exponentOf? exp with
      | none => .error .failedToParse
      | some e =>
        if e ≤ d.scale then pure { d with scale := d.scale - e }
        else if e > maxScale then .error (.scaleTooLarge e)
        else
          let m := d.mantissa * Nat.pow 10 (e - d.scale)
          if m ≥ mantissaBound then .error .exceedsMaximum else pure (make m 0 d.negative)

/-- Reads a decimal: the plain notation, or else, when that fails and the text holds an `e` or
an `E`, a base with an exponent, whose refusal is then the text's. -/
def read (s : String) : Except DecimalError Decimal :=
  match readPlain s with
  | .ok d => .ok d
  | .error e => if s.any (fun c => c == 'e' || c == 'E') then readScientific s else .error e

/-- The text of a decimal: the sign of a negative value, then the mantissa with `scale` digits
after the point. -/
def text (d : Decimal) : String :=
  let ds := Nat.toDigits 10 d.mantissa
  let body :=
    if d.scale = 0 then String.ofList ds
    else
      let full := List.replicate (d.scale + 1 - ds.length) '0' ++ ds
      String.ofList (full.take (full.length - d.scale)) ++ "." ++
        String.ofList (full.drop (full.length - d.scale))
  (if d.negative && d.mantissa != 0 then "-" else "") ++ body

end Decimal

end Rebill
