import Rebill.Binary64
/-!
# Real numbers in settings

Configuration files may hold real numbers, and a setting that wants text takes a real number as
the shortest decimal text that reads back to the same binary64 number, written out in full
without an exponent: `1.5`, `100`, `0.0000001`, `inf`, `NaN`.

The digits are those of `Binary64.shortest`.
-/

namespace Rebill.Settings

/-- The plain text of `n * 10 ^ e`, without an exponent. -/
def plainText (n : Nat) (e : Int) : String :=
  let ds := toString n
  if 0 ≤ e then ds ++ String.ofList (List.replicate e.toNat '0')
  else
    let s := (-e).toNat
    if s < ds.length then
      String.ofList (ds.toList.take (ds.length - s)) ++ "." ++
        String.ofList (ds.toList.drop (ds.length - s))
    else "0." ++ String.ofList (List.replicate (s - ds.length) '0') ++ ds

/-- Whether `n * 10 ^ e` is past the largest finite binary64 number, so that it reads as
infinity. -/
def overflows (n : Nat) (e : Int) : Bool :=
  let (p, q) := Binary64.decimalFraction n e
  (Binary64.ofFraction false p q).isNone

/-- The text of a finite binary64 number: its shortest digits written out in full, without an
exponent. -/
def realTextOf (x : Binary64) : String :=
  let sign := if x.negative then "-" else ""
  if x.isZero then sign ++ "0"
  else
    let (digits, e) := x.shortest
    sign ++ plainText digits e

/-- The text of the binary64 number nearest to `± n * 10 ^ e`. -/
def realText (negative : Bool) (n : Nat) (e : Int) : String :=
  let (p, q) := Binary64.decimalFraction n e
  match Binary64.ofFraction negative p q with
  | none => (if negative then "-" else "") ++ "inf"
  | some x => realTextOf x

def digitsNat (ds : List Char) : Nat :=
  ds.foldl (fun acc c => acc * 10 + (c.toNat - '0'.toNat)) 0

/-- Reads a real number the way the standard reader of binary64 numbers does: an optional sign,
then `inf`, `infinity` or `nan` in any case, or digits with an optional point and an optional
exponent, with at least one digit before or after the point. Gives the number's text. -/
def readReal? (s : String) : Option String :=
  let cs := s.toList
  let (negative, cs) := match cs with
    | '-' :: r => (true, r)
    | '+' :: r => (false, r)
    | _ => (false, cs)
  let word := String.ofList (cs.map Char.toLower)
  let sign := if negative then "-" else ""
  if word = "inf" ∨ word = "infinity" then some (sign ++ "inf")
  else if word = "nan" then some "NaN"
  else
    let whole := cs.takeWhile Char.isDigit
    let cs := cs.drop whole.length
    let (fraction, cs) := match cs with
      | '.' :: r => (r.takeWhile Char.isDigit, r.drop (r.takeWhile Char.isDigit).length)
      | _ => ([], cs)
    if whole.isEmpty ∧ fraction.isEmpty then none
    else
      let exponent : Option Int := match cs with
        | [] => some 0
        | e :: r =>
          if e = 'e' ∨ e = 'E' then
            let (neg, ds) := match r with
              | '-' :: ds => (true, ds)
              | '+' :: ds => (false, ds)
              | ds => (false, ds)
            if !ds.isEmpty ∧ ds.all Char.isDigit then
              some (if neg then -(digitsNat ds : Int) else digitsNat ds)
            else none
          else none
      exponent.map fun (x : Int) =>
        let n := digitsNat (whole ++ fraction)
        let e : Int := x - (fraction.length : Int)
        if overflows n e then sign ++ "inf" else realText negative n e

end Rebill.Settings
