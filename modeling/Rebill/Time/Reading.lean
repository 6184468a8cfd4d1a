import Rebill.Time.Instant
import Rebill.Text.Blank

/-!
# Reading instants and dates

`readInstant` reads an RFC 3339 date-time: four digits of year, two of month and day, `T`, `t` or
a space, two digits each of hour, minute and second (60 for a leap second), an optional fraction
of any length (the first nine digits count), and `Z`, `z` or a numeric offset `+HH:MM` of less
than a day. The instant is converted to UTC. `readDate` reads `YYYY-MM-DD`, where the year may
carry a sign and blanks may stand before each number.

A text that cannot be read names one of the causes of `ReadError`; the first fault met while
reading from the left decides which. A text shorter than the shortest date-time is cut short.
-/

namespace Rebill

/-- Why a time or a date could not be read. -/
inductive ReadError where
  /-- A field, or the whole value, lies outside its range. -/
  | outOfRange
  /-- No value matches the fields read. -/
  | impossible
  /-- The fields read do not fix one value. -/
  | notEnough
  /-- A character stands where it cannot. -/
  | invalid
  /-- The text ends too early. -/
  | tooShort
  /-- Text remains after the value. -/
  | tooLong
deriving DecidableEq, Repr

namespace ReadError

def message : ReadError → String
  | .outOfRange => "input is out of range"
  | .impossible => "no possible date and time matching input"
  | .notEnough => "input is not enough for unique date and time"
  | .invalid => "input contains invalid characters"
  | .tooShort => "premature end of input"
  | .tooLong => "trailing input"

end ReadError

namespace Reading

def byteLength (cs : List Char) : Nat := cs.foldr (fun c n => c.utf8Size + n) 0

/-- Reads at least `lo` and at most `hi` decimal digits from the front; the value must stay
below 2^63. -/
def digits (cs : List Char) (lo hi : Nat) : Except ReadError (Nat × List Char) :=
  if byteLength cs < lo then .error .tooShort else go cs 0 0
where
  go : List Char → Nat → Nat → Except ReadError (Nat × List Char)
    | [], _, acc => .ok (acc, [])
    | c :: rest, i, acc =>
      if i ≥ hi then .ok (acc, c :: rest)
      else if c.isDigit then
        let acc' := acc * 10 + (c.toNat - '0'.toNat)
        if acc' ≥ Nat.pow 2 63 then .error .outOfRange else go rest (i + 1) acc'
      else if i < lo then .error .invalid
      else .ok (acc, c :: rest)

def expect (cs : List Char) (c : Char) : Except ReadError (List Char) :=
  match cs with
  | [] => .error .tooShort
  | d :: rest => if d = c then .ok rest else .error .invalid

/-- A value read into a field with the range `lo` to `hi`. -/
def field (v lo hi : Nat) : Except ReadError Nat :=
  if lo ≤ v ∧ v ≤ hi then .ok v else .error .outOfRange

/-- The nanoseconds of a fraction: up to nine digits count, the rest are skipped. -/
def fraction (cs : List Char) : Except ReadError (Nat × List Char) := do
  let (v, rest) ← digits cs 1 9
  let used := cs.length - rest.length
  pure (v * Nat.pow 10 (9 - used), rest.dropWhile Char.isDigit)

def digitValue (c : Char) : Nat := c.toNat - '0'.toNat

/-- The first two bytes as two digits: too short below two bytes, and invalid unless both are
digits. -/
def twoDigits (cs : List Char) : Except ReadError (Nat × Nat × List Char) :=
  if byteLength cs < 2 then .error .tooShort
  else match cs with
    | a :: b :: rest =>
      if a.isDigit ∧ b.isDigit then .ok (digitValue a, digitValue b, rest) else .error .invalid
    | _ => .error .invalid

/-- A UTC offset in seconds: `Z`, or a sign, two digits of hours, a colon and two digits of
minutes below 60. -/
def offset (cs : List Char) : Except ReadError (Int × List Char) :=
  match cs with
  | 'Z' :: rest | 'z' :: rest => .ok (0, rest)
  | [] => .error .tooShort
  | c :: rest =>
    let neg? : Option Bool :=
      if c = '+' then some false else if c = '-' ∨ c = '−' then some true else none
    match neg? with
    | none => .error .invalid
    | some neg => do
      let (h1, h2, rest) ← twoDigits rest
      let rest ← expect rest ':'
      let (m1, m2, rest) ← twoDigits rest
      if m1 ≥ 6 then throw .outOfRange
      let secs : Int := ((h1 * 10 + h2) * 3600 + (m1 * 10 + m2) * 60 : Nat)
      pure (if neg then -secs else secs, rest)

/-- The fewest bytes of a date-time, `YYYY-MM-DDTHH:MM:SS`. -/
def shortestDateTime : Nat := 19

end Reading

open Reading in
/-- Reads an RFC 3339 date-time and converts it to UTC. The date is checked as soon as it is
read; the ranges of the offset and of the time of day once the whole text is read. Second 60 is a
leap second, which the offset moves with the minute it ends. -/
def readInstant (s : String) : Except ReadError Instant := do
  let cs := s.toList
  if byteLength cs < shortestDateTime then throw .tooShort
  let (y, cs) ← digits cs 4 4
  let cs ← expect cs '-'
  let (mo, cs) ← digits cs 2 2
  let cs ← expect cs '-'
  let (d, cs) ← digits cs 2 2
  let date : Date := ⟨y, mo, d⟩
  if ¬ date.IsValid then throw .outOfRange
  let cs ← match cs with
    | c :: rest => if c = 'T' ∨ c = 't' ∨ c = ' ' then pure rest else throw .invalid
    | [] => throw .tooShort
  let (h, cs) ← digits cs 2 2
  let cs ← expect cs ':'
  let (mi, cs) ← digits cs 2 2
  let cs ← expect cs ':'
  let (sec, cs) ← digits cs 2 2
  let (ns, cs) ← match cs with
    | '.' :: rest => fraction rest
    | _ => pure (0, cs)
  let (off, cs) ← offset cs
  if cs ≠ [] then throw .tooLong
  if off.natAbs > (23 * 60 + 59) * 60 then throw .outOfRange
  if h > 23 ∨ mi > 59 ∨ sec > 60 then throw .outOfRange
  let (sec, ns) := if sec = 60 then (59, ns + Instant.nanosPerSecond) else (sec, ns)
  let wall := date.toDay * Instant.secondsPerDay + ((h * 3600 + mi * 60 + sec : Nat) : Int)
  pure ⟨wall - off, ns⟩

open Reading in
/-- Reads a date `YYYY-MM-DD`; the year may carry a sign, and blanks may stand before each
number. -/
def readDate (s : String) : Except ReadError Date := do
  let cs := Text.dropBlanks s.toList
  let (y, cs) ← match cs with
    | '-' :: rest => do
      let (v, r) ← digits rest 1 (rest.length + 1)
      pure (-(v : Int), r)
    | '+' :: rest => do
      let (v, r) ← digits rest 1 (rest.length + 1)
      pure ((v : Int), r)
    | _ => do
      let (v, r) ← digits cs 1 4
      pure ((v : Int), r)
  if y < -2147483648 ∨ y > 2147483647 then throw .outOfRange
  let cs ← expect cs '-'
  let (mo, cs) ← digits (Text.dropBlanks cs) 1 2
  let mo ← field mo 1 12
  let cs ← expect cs '-'
  let (d, cs) ← digits (Text.dropBlanks cs) 1 2
  let d ← field d 1 31
  if cs ≠ [] then throw .tooLong
  let date : Date := ⟨y, mo, d⟩
  if ¬ date.IsValid then throw .outOfRange
  if y < -262143 ∨ y > 262142 then throw .outOfRange
  pure date

end Rebill
