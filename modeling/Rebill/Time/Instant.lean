import Rebill.Time.Calendar
import Rebill.Time.Span

/-!
# Instants

An `Instant` is a point of time in UTC: the whole seconds from 1970-01-01T00:00:00Z to the second
it falls in, and the nanoseconds into that second. A minute may end in a leap second: the
nanoseconds of an instant inside one run on from `10 ^ 9`, past the end of the minute's last
second, which keeps its number. Instants are ordered by second, then by nanosecond, so a leap
second comes after the second it extends and before the next minute.

The time line is bounded: it runs from the first day of year -262143 to the last day of year
262142, and `Instant.shift?` answers `none` when a span would carry an instant past either end.
That is the one way in which arithmetic on instants fails. Moving an instant counts whole
seconds and the fraction apart: a move of whole seconds leaves a leap second for the second it
extends, so one day after `23:59:60` is `23:59:59` of the next day, and a move by a fraction
alone stays inside the leap second or the second before it.

Two texts are written: `Instant.rfc3339`, the RFC 3339 form in UTC (`2024-03-01T00:15:00Z`), and
`Instant.display`, the form used inside messages (`2024-03-01 00:15:00 UTC`). A leap second is
second 60. Both omit a zero fraction of a second and otherwise give 3, 6 or 9 digits, the fewest
that are exact.
-/

namespace Rebill

/-- A point of time: a second counted from 1970-01-01T00:00:00Z and the nanoseconds into it; from
`10 ^ 9` on, the nanoseconds lie in a leap second after that second. -/
structure Instant where
  second : Int
  nano : Nat
deriving DecidableEq, Repr, Inhabited

namespace Instant

def nanosPerSecond : Nat := 1000000000

def secondsPerDay : Int := 86400

/-- The first instant of the time line, at the start of year -262143. -/
def first : Instant := ⟨Date.toDay ⟨-262143, 1, 1⟩ * secondsPerDay, 0⟩

/-- The last second of the time line, at the end of year 262142. -/
def lastSecond : Int := (Date.toDay ⟨262142, 12, 31⟩ + 1) * secondsPerDay - 1

def InRange (t : Instant) : Prop := first.second ≤ t.second ∧ t.second ≤ lastSecond

instance (t : Instant) : Decidable t.InRange := by
  unfold InRange; infer_instance

/-- A number that orders instants as time does: by second, then by nanosecond. -/
def key (t : Instant) : Int := t.second * (2 * nanosPerSecond : Nat) + t.nano

def epoch : Instant := ⟨0, 0⟩

instance : LT Instant := ⟨fun a b => a.key < b.key⟩
instance : LE Instant := ⟨fun a b => a.key ≤ b.key⟩
instance (a b : Instant) : Decidable (a < b) := inferInstanceAs (Decidable (a.key < b.key))
instance (a b : Instant) : Decidable (a ≤ b) := inferInstanceAs (Decidable (a.key ≤ b.key))

def isLeap (t : Instant) : Bool := t.nano ≥ nanosPerSecond

/-- Where a move of `whole` seconds and the fraction `part` starts: at the instant's second and
fraction; from inside a leap second, at the fraction counted on past the second it extends when
the move leaves the leap second, and nowhere when it stays inside it or in the second before. -/
def shiftStart (t : Instant) (whole part : Int) : Option (Int × Int) :=
  let ns : Int := nanosPerSecond
  let frac : Int := t.nano
  if frac < ns then some (t.second, frac)
  else if whole > 0 ∨ (part > 0 ∧ frac + part ≥ 2 * ns) then some (t.second, frac - ns)
  else if whole < 0 then some (t.second + 1, frac - ns)
  else none

/-- A second and a fraction at most a second off, carried so that the fraction lies within the
second. -/
def carrySecond (s f : Int) : Int × Int :=
  let ns : Int := nanosPerSecond
  if f < 0 then (s - 1, f + ns) else if f ≥ ns then (s + 1, f - ns) else (s, f)

/-- Where a move ends from where it starts: a move that stays inside a leap second adds the
fraction there; otherwise the start is moved, carried, and kept only on the time line. -/
def shiftFrom (t : Instant) (whole part : Int) : Option (Int × Int) → Option Instant
  | none => some ⟨t.second, ((t.nano : Int) + part).toNat⟩
  | some (s, f) =>
    let p := carrySecond (s + whole) (f + part)
    let r : Instant := ⟨p.1, p.2.toNat⟩
    if r.InRange then some r else none

/-- The instant a span later, when it is on the time line. The span's whole seconds and its
fraction (of the span's sign) are added apart; a leap second is left for the second it extends
unless the move is a fraction that stays inside it or in the second before. -/
def shift? (t : Instant) (d : Span) : Option Instant :=
  t.shiftFrom (d.nanos.tdiv nanosPerSecond) (d.nanos.tmod nanosPerSecond)
    (t.shiftStart (d.nanos.tdiv nanosPerSecond) (d.nanos.tmod nanosPerSecond))

/-- The instant a span earlier, when it is on the time line. -/
def unshift? (t : Instant) (d : Span) : Option Instant := t.shift? ⟨-d.nanos⟩

def dayNumber (t : Instant) : Int := t.second / secondsPerDay

def secondOfDay (t : Instant) : Nat := (t.second % secondsPerDay).toNat

/-- The span from `b` to `a`: whole days apart, and the times of day apart, where a leap second
between them counts when the later time of day is not the one in it. -/
def since (a b : Instant) : Span :=
  let sa := a.secondOfDay
  let sb := b.secondOfDay
  let leap : Int :=
    if sa > sb ∧ b.isLeap then 1 else if sa < sb ∧ a.isLeap then -1 else 0
  let secs : Int := (a.dayNumber - b.dayNumber) * secondsPerDay + sa - sb + leap
  ⟨secs * (nanosPerSecond : Int) + ((a.nano : Int) - b.nano)⟩

def ofDate (d : Date) : Instant := ⟨d.toDay * secondsPerDay, 0⟩

def date (t : Instant) : Date := Date.ofDay t.dayNumber

/-- The fraction of a second: empty when zero, else 3, 6 or 9 digits, the fewest that are exact. -/
def fractionText (n : Nat) : String :=
  if n = 0 then ""
  else if n % 1000000 = 0 then "." ++ Date.padded 3 (n / 1000000)
  else if n % 1000 = 0 then "." ++ Date.padded 6 (n / 1000)
  else "." ++ Date.padded 9 n

/-- The time of day as `HH:MM:SS` with its fraction; a leap second is second 60. -/
def clockText (t : Instant) : String :=
  let s := t.secondOfDay
  let (sec, n) := if t.isLeap then (s % 60 + 1, t.nano - nanosPerSecond) else (s % 60, t.nano)
  Date.padded 2 (s / 3600) ++ ":" ++ Date.padded 2 (s / 60 % 60) ++ ":" ++
    Date.padded 2 sec ++ fractionText n

/-- The RFC 3339 text in UTC, such as `2024-03-01T00:15:00Z`. -/
def rfc3339 (t : Instant) : String := t.date.text ++ "T" ++ t.clockText ++ "Z"

/-- The text used inside messages, such as `2024-03-01 00:15:00 UTC`. -/
def display (t : Instant) : String := t.date.text ++ " " ++ t.clockText ++ " UTC"

end Instant

end Rebill
