import Rebill.Time.Instant

/-!
# Overflow of time arithmetic

A span made of more days or hours than a span can hold, or an instant moved past an end of the
time line, is an `Overflow`. It is not an error an operation reports: it stops the operation
and everything after it. `Overflow.message` is how the stop is announced.

`shiftBy`, `shiftBack`, `spanOfDays` and `spanOfHours` are the checked steps that may overflow.
-/

namespace Rebill

/-- Time arithmetic that went past its bounds. -/
inductive Overflow where
  /-- An instant plus a span left the time line. -/
  | forward
  /-- An instant minus a span left the time line. -/
  | backward
  /-- Too many days for a span. -/
  | days
  /-- Too many hours for a span. -/
  | hours
deriving DecidableEq, Repr, Inhabited

namespace Overflow

def message : Overflow → String
  | .forward => "`DateTime + TimeDelta` overflowed"
  | .backward => "`DateTime - TimeDelta` overflowed"
  | .days => "TimeDelta::days out of bounds"
  | .hours => "TimeDelta::hours out of bounds"

end Overflow

/-- The instant a span later, or an overflow. -/
def shiftBy (t : Instant) (d : Span) : Except Overflow Instant :=
  (t.shift? d).elim (.error .forward) .ok

/-- The instant a span earlier, or an overflow. -/
def shiftBack (t : Instant) (d : Span) : Except Overflow Instant :=
  (t.unshift? d).elim (.error .backward) .ok

/-- A span of whole days, or an overflow. -/
def spanOfDays (n : Int) : Except Overflow Span :=
  match Span.ofDays? n with
  | some d => .ok d
  | none => .error .days

/-- A span of whole hours, or an overflow. -/
def spanOfHours (n : Int) : Except Overflow Span :=
  match Span.ofHours? n with
  | some d => .ok d
  | none => .error .hours

end Rebill
