/-!
# Spans of time

A `Span` is a signed length of time in nanoseconds. Spans are bounded: a span is at most
`Span.limit` nanoseconds long either way, the length of 2^63 - 1 milliseconds. The constructors
from whole seconds, minutes, hours and days answer `none` for a length beyond that bound, which
is how a schedule or a setting too large to be represented is detected.

`waitText` writes a lock wait in milliseconds the way durations appear in messages: whole
milliseconds below a second (`20ms`), seconds with the shortest fraction at and above it
(`1s`, `1.5s`), and `0ns` for nothing.
-/

namespace Rebill

/-- A signed length of time in nanoseconds. -/
structure Span where
  nanos : Int
deriving DecidableEq, Repr, Inhabited

namespace Span

def nanosPerSecond : Int := 1000000000

/-- The longest span, 2^63 - 1 milliseconds, in nanoseconds. -/
def limit : Int := 9223372036854775807 * 1000000

def zero : Span := ⟨0⟩

/-- A span of whole seconds, when it is within the bound. -/
def ofSeconds? (s : Int) : Option Span :=
  if s.natAbs * 1000000000 ≤ limit.toNat then some ⟨s * nanosPerSecond⟩ else none

/-- A span of whole minutes, when it is within the bound. -/
def ofMinutes? (m : Int) : Option Span := ofSeconds? (m * 60)

/-- A span of whole hours, when it is within the bound. -/
def ofHours? (h : Int) : Option Span := ofSeconds? (h * 3600)

def ofDays? (d : Int) : Option Span := ofSeconds? (d * 86400)

def seconds (d : Span) : Int := d.nanos.tdiv nanosPerSecond

instance : LT Span := ⟨fun a b => a.nanos < b.nanos⟩
instance : LE Span := ⟨fun a b => a.nanos ≤ b.nanos⟩
instance (a b : Span) : Decidable (a < b) := inferInstanceAs (Decidable (a.nanos < b.nanos))
instance (a b : Span) : Decidable (a ≤ b) := inferInstanceAs (Decidable (a.nanos ≤ b.nanos))

end Span

/-- The digits of a fraction of `width` places, without the zeros at its end. -/
def fractionDigits (width n : Nat) : String :=
  let ds := Nat.toDigits 10 n
  let full := List.replicate (width - ds.length) '0' ++ ds
  String.ofList (full.reverse.dropWhile (· == '0')).reverse

/-- A wait of `ms` milliseconds as a duration is written in messages. -/
def waitText (ms : Nat) : String :=
  if ms ≥ 1000 then
    let frac := ms % 1000
    toString (ms / 1000) ++ (if frac = 0 then "" else "." ++ fractionDigits 3 frac) ++ "s"
  else if ms > 0 then toString ms ++ "ms"
  else "0ns"

end Rebill
