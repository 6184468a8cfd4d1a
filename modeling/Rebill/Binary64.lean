/-!
# Binary64 numbers

A finite binary64 number is a sign and a magnitude `mantissa * 2 ^ exponent`, the mantissa
below `2 ^ 53` and the exponent at least `-1074`; a normal number has a mantissa of at least
`2 ^ 52` and a subnormal one the least exponent, so each value has one form, and zero is kept
with exponent `0` and either sign.

`Binary64.ofFraction` rounds an exact fraction to the nearest such number, ties to the even
mantissa, and gives `none` for a fraction past the largest finite number, which rounds to
infinity. A product or a quotient of two numbers is rounded once from its exact value.

`Binary64.shortest` gives the fewest significant decimal digits that round back to a number: it
tries one, two, up to seventeen digits, and for each the two decimals next to the number, and
keeps the first that rounds back, the closer one when both do. Seventeen digits always round
back, so the search ends there.
-/

namespace Rebill

/-- A finite binary64 number: a sign and the magnitude `mantissa * 2 ^ exponent`. -/
structure Binary64 where
  negative : Bool
  mantissa : Nat
  exponent : Int
deriving DecidableEq, Repr, Inhabited

namespace Binary64

def scaledBy (p q : Nat) (e : Int) : Nat × Nat :=
  if 0 ≤ e then (p, q * Nat.pow 2 e.toNat) else (p * Nat.pow 2 (-e).toNat, q)

/-- The floor of the binary logarithm of a positive fraction. -/
def floorLog2 (p q : Nat) : Int :=
  let t : Int := (Nat.log2 p : Int) - Nat.log2 q
  let (n, d) := scaledBy p q t
  if d ≤ n then t else t - 1

/-- The mantissa and binary exponent nearest to the positive fraction `p / q`; `none` when it
rounds to infinity. -/
def nearest (p q : Nat) : Option (Nat × Int) :=
  let e := max (floorLog2 p q - 52) (-1074)
  let (n, d) := scaledBy p q e
  let m := n / d
  let r := n % d
  let m := if 2 * r > d ∨ (2 * r = d ∧ m % 2 = 1) then m + 1 else m
  let (m, e) := if m = Nat.pow 2 53 then (Nat.pow 2 52, e + 1) else (m, e)
  if 971 < e then none else some (m, e)

/-- The number nearest to `± p / q`, negative when `negative` holds; `none` when it rounds to
infinity. A fraction below half the least subnormal number rounds to zero. -/
def ofFraction (negative : Bool) (p q : Nat) : Option Binary64 :=
  if p = 0 then some ⟨negative, 0, 0⟩
  else (nearest p q).map fun (m, e) => ⟨negative, m, if m = 0 then 0 else e⟩

def ofNat (negative : Bool) (n : Nat) : Option Binary64 := ofFraction negative n 1

def zero (negative : Bool) : Binary64 := ⟨negative, 0, 0⟩

def isZero (x : Binary64) : Bool := x.mantissa == 0

def magnitude (x : Binary64) : Nat × Nat :=
  if 0 ≤ x.exponent then (x.mantissa * Nat.pow 2 x.exponent.toNat, 1)
  else (x.mantissa, Nat.pow 2 (-x.exponent).toNat)

def neg (x : Binary64) : Binary64 := { x with negative := !x.negative }

def mul (x y : Binary64) : Option Binary64 :=
  let (p, q) := x.magnitude
  let (r, s) := y.magnitude
  ofFraction (x.negative != y.negative) (p * r) (q * s)

/-- The quotient, rounded; `none` when it overflows or the divisor is zero. -/
def div (x y : Binary64) : Option Binary64 :=
  let (p, q) := x.magnitude
  let (r, s) := y.magnitude
  if r = 0 then none else ofFraction (x.negative != y.negative) (p * s) (q * r)

def powTen (k : Nat) : Binary64 := (ofNat false (Nat.pow 10 k)).getD (zero false)

def decimalFraction (n : Nat) (e : Int) : Nat × Nat :=
  if 0 ≤ e then (n * Nat.pow 10 e.toNat, 1) else (n, Nat.pow 10 (-e).toNat)

/-- The floor of the decimal logarithm of a positive fraction, searching at most `fuel`
powers of ten. -/
def floorLog10 (p q : Nat) : Nat → Int
  | 0 => 0
  | fuel + 1 =>
    if q ≤ p then ((toString (p / q)).length : Int) - 1
    else if q ≤ p * 10 then -1
    else floorLog10 (p * 10) q fuel - 1

/-- Whether the decimal `n * 10 ^ e` rounds to the magnitude of `x`. -/
def readsBack (n : Nat) (e : Int) (x : Binary64) : Bool :=
  n ≠ 0 && (let (p, q) := decimalFraction n e; nearest p q == some (x.mantissa, x.exponent))

/-- The decimals of `k` significant digits next to the magnitude of `x`, whose decimal
logarithm is `d`: the one below or at it, the one above, and their exponent. -/
def gridAround (x : Binary64) (d : Int) (k : Nat) : Nat × Nat × Int :=
  let s : Int := (k : Int) - 1 - d
  let (p, q) := x.magnitude
  let (n, den) := if 0 ≤ s then (p * Nat.pow 10 s.toNat, q) else (p, q * Nat.pow 10 (-s).toNat)
  let lo := n / den
  (lo, (if n % den = 0 then lo else lo + 1), -s)

/-- The shortest decimal `digits * 10 ^ e` that rounds back to the magnitude of `x`, trying `k`
significant digits and more; when the fuel runs out, the decimal below at `k` digits. -/
def shortestFrom (x : Binary64) (d : Int) : Nat → Nat → Nat × Int
  | 0, k => let (lo, _, e) := gridAround x d k; (lo, e)
  | fuel + 1, k =>
    let (lo, hi, e) := gridAround x d k
    let loOk := readsBack lo e x
    let hiOk := hi ≠ lo && readsBack hi e x
    if loOk && hiOk then
      -- the closer of the two; on a tie the upper one
      let (p, q) := x.magnitude
      let (n, den) :=
        if 0 ≤ -e then (p * Nat.pow 10 (-e).toNat, q) else (p, q * Nat.pow 10 e.toNat)
      if n - lo * den < hi * den - n then (lo, e) else (hi, e)
    else if loOk then (lo, e)
    else if hiOk then (hi, e)
    else shortestFrom x d fuel (k + 1)

def dropZeros (n : Nat) (e : Int) : Nat → Nat × Int
  | 0 => (n, e)
  | fuel + 1 => if n ≠ 0 ∧ n % 10 = 0 then dropZeros (n / 10) (e + 1) fuel else (n, e)

/-- The fewest significant digits `digits * 10 ^ e` that round back to the magnitude of a
nonzero number, without trailing zeros. -/
def shortest (x : Binary64) : Nat × Int :=
  let (p, q) := x.magnitude
  let (digits, e) := shortestFrom x (floorLog10 p q 1100) 17 1
  dropZeros digits e 20

end Binary64

end Rebill
