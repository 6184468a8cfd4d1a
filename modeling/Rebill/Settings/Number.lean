/-!
# Numbers and flags in settings

A setting is text; a numeric setting is read the way the standard readers of whole numbers do:
an optional sign (`-` only where the type has negative values), then decimal digits, read from
the left. The first character that is not a digit is refused, and so is the first prefix whose
value leaves the type's range, whichever comes first. A flag is exactly `true` or `false`.

Each refusal has one text, given by `NumberError.text`.
-/

namespace Rebill.Settings

/-- Why a setting's text is not a number or a flag. -/
inductive NumberError where
  | empty
  | invalidDigit
  | tooLarge
  | tooSmall
  | notFlag
deriving DecidableEq, Repr, Inhabited

/-- The text of a refusal. -/
def NumberError.text : NumberError → String
  | .empty => "cannot parse integer from empty string"
  | .invalidDigit => "invalid digit found in string"
  | .tooLarge => "number too large to fit in target type"
  | .tooSmall => "number too small to fit in target type"
  | .notFlag => "provided string was not `true` or `false`"

def digitValue? (c : Char) : Option Nat :=
  if '0' ≤ c ∧ c ≤ '9' then some (c.toNat - '0'.toNat) else none

/-- Reads digits from the left onto `acc`, each step moving away from zero in the direction of
`negative`; the first non-digit and the first value outside `[lo, hi]` are refused. -/
def readDigits (lo hi : Int) (negative : Bool) : List Char → Int → Except NumberError Int
  | [], acc => .ok acc
  | c :: rest, acc =>
    match digitValue? c with
    | none => .error .invalidDigit
    | some d =>
      let acc := if negative then acc * 10 - d else acc * 10 + d
      if hi < acc then .error .tooLarge
      else if acc < lo then .error .tooSmall
      else readDigits lo hi negative rest acc

/-- Reads a whole number of the type whose values are `[lo, hi]`; a type with `lo < 0` takes a
leading `-`, every type a leading `+`. -/
def readWhole (lo hi : Int) (s : String) : Except NumberError Int :=
  match s.toList with
  | [] => .error .empty
  | ['+'] | ['-'] => .error .invalidDigit
  | '+' :: rest => readDigits lo hi false rest 0
  | '-' :: rest => if lo < 0 then readDigits lo hi true rest 0 else .error .invalidDigit
  | cs => readDigits lo hi false cs 0

def readFlag (s : String) : Except NumberError Bool :=
  if s = "true" then .ok true else if s = "false" then .ok false else .error .notFlag

def u32Max : Int := 4294967295

def u64Max : Int := 18446744073709551615

def i32Min : Int := -2147483648

def i32Max : Int := 2147483647

def i64Min : Int := -9223372036854775808

def i64Max : Int := 9223372036854775807

end Rebill.Settings
