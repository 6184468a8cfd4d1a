/-!
# Punycode

An international label may be written in ASCII as `xn--` followed by its Punycode form: the
label's ASCII characters, a `-`, then the other characters as variable-length numbers in base 36
(`a`-`z` for 0 to 25, `0`-`9` for 26 to 35, letters in either case). Each number says where the
next character goes and how far its code point is from the one before; the thresholds of the
digits follow the bias, which adapts after each character.

`Punycode.decode` undoes this. It fails when a digit is not one, when the input ends inside a
number, when a number or a code point passes 32 bits, or when a code point is not a character.
As in the common decoders, a `-` at the very start is no separator, so the whole input is read as
numbers.
-/

namespace Rebill.Connection.Punycode

def u32Max : Nat := Nat.pow 2 32 - 1

def digitOf (c : Char) : Option Nat :=
  if 'a' ≤ c ∧ c ≤ 'z' then some (c.toNat - 'a'.toNat)
  else if 'A' ≤ c ∧ c ≤ 'Z' then some (c.toNat - 'A'.toNat)
  else if '0' ≤ c ∧ c ≤ '9' then some (c.toNat - '0'.toNat + 26)
  else none

/-- The threshold of the digit at position `k` for a bias. -/
def threshold (k bias : Nat) : Nat :=
  if k ≤ bias then 1 else if k ≥ bias + 26 then 26 else k - bias

/-- Divides a delta by 35 while it is past 455, counting 36 for each division; the delta falls
at each step. -/
def shrink (d k : Nat) : Nat × Nat :=
  if d > 455 then shrink (d / 35) (k + 36) else (d, k)
termination_by d
decreasing_by exact Nat.div_lt_self (by omega) (by omega)

/-- The bias after a delta, for a label of `points` characters so far. -/
def adapt (delta points : Nat) (first : Bool) : Nat :=
  let delta := if first then delta / 700 else delta / 2
  let delta := delta + delta / points
  let (delta, k) := shrink delta 0
  k + (36 * delta) / (delta + 38)

/-- Reads one variable-length number into `i`, from weight `w` at position `k`: the new `i` and
the rest, or `none`. -/
def readDelta : Nat → List Char → Nat → Nat → Nat → Nat → Option (Nat × List Char)
  | 0, _, _, _, _, _ => none
  | _ + 1, [], _, _, _, _ => none
  | fuel + 1, c :: rest, i, w, k, bias =>
    match digitOf c with
    | none => none
    | some d =>
      let i := i + d * w
      if d * w > u32Max || i > u32Max then none
      else
        let t := threshold k bias
        if d < t then some (i, rest)
        else if w * (36 - t) > u32Max then none
        else readDelta fuel rest i (w * (36 - t)) (k + 36) bias

def isScalar (n : Nat) : Bool := n < 0xD800 || (0xE000 ≤ n && n ≤ 0x10FFFF)

/-- Decodes the numbers after the characters `out`: code point `n`, bias `bias`, position
`i`. -/
def decodeFrom : Nat → List Char → List Char → Nat → Nat → Nat → Option (List Char)
  | 0, _, _, _, _, _ => none
  | _ + 1, [], out, _, _, _ => some out
  | fuel + 1, cs, out, n, bias, i =>
    match readDelta (cs.length + 1) cs i 1 36 bias with
    | none => none
    | some (i', rest) =>
      let len := out.length + 1
      let bias := adapt (i' - i) len (i == 0)
      let n := n + i' / len
      let pos := i' % len
      if n > u32Max || !isScalar n then none
      else decodeFrom fuel rest (out.take pos ++ [Char.ofNat n] ++ out.drop pos) n bias (pos + 1)

def decode (cs : List Char) : Option (List Char) :=
  let dash := cs.length - 1 - (cs.reverse.findIdx (· == '-'))
  let (base, numbers) :=
    if !cs.contains '-' then ([], cs)
    else if dash = 0 then ([], cs)
    else (cs.take dash, cs.drop (dash + 1))
  if !base.all (·.toNat < 0x80) then none
  else decodeFrom (numbers.length + 1) numbers base 0x80 72 0

end Rebill.Connection.Punycode
