import TimingBoard.Number.Layout

/-!
# Spans of time

A span is a whole number of nanoseconds, at most the largest that 64 bits of seconds and the
nanoseconds below a second can express. Between spans and binary64 seconds there is one rounding in
each direction: seconds become the nearest nanosecond, half way the even one, and a span becomes
its whole seconds plus its fraction, each rounded by itself.

An instant is a span counted from a fixed beginning. The span since an instant that lies ahead is
zero.
-/

namespace TimingBoard

/-- The nanoseconds in a second. -/
def nanosPerSecond : Nat := 1000000000

/-- The first number of nanoseconds that is too large for a span. -/
def tooManyNanos : Nat := UInt64.size * nanosPerSecond

/-- A span of time. -/
structure Span where
  nanos : Nat
  lt_limit : nanos < tooManyNanos
  deriving DecidableEq

/-- Why a number of seconds is no span. -/
inductive SpanFault where
  | negative
  /-- At least 2 ^ 64 seconds, or not a number. -/
  | tooLong
  deriving DecidableEq

/-- The text of a fault. -/
def SpanFault.message : SpanFault → Text
  | .negative => "cannot convert float seconds to Duration: value is negative".toList
  | .tooLong =>
    "cannot convert float seconds to Duration: value is either too big or NaN".toList

namespace Span

/-- No time. -/
def zero : Span := ⟨0, by decide⟩

/-- The longest span. -/
def longest : Span := ⟨tooManyNanos - 1, by decide⟩

/-- The span of a number of nanoseconds, or the longest when there are too many. -/
def ofNanos (n : Nat) : Span :=
  if h : n < tooManyNanos then ⟨n, h⟩ else longest

/-- The span of a number of milliseconds. -/
def ofMillis (n : Nat) : Span :=
  ofNanos (n * 1000000)

/-- The span of a number of seconds. -/
def ofSeconds (n : Nat) : Span :=
  ofNanos (n * nanosPerSecond)

/-- The whole seconds of a span. -/
def seconds (s : Span) : Nat :=
  s.nanos / nanosPerSecond

/-- The nanoseconds of a span beyond its whole seconds. -/
def subsecond (s : Span) : Nat :=
  s.nanos % nanosPerSecond

/-- The whole milliseconds of a span. -/
def millis (s : Span) : Nat :=
  s.nanos / 1000000

/-- A span as binary64 seconds. -/
def toBinary64 (s : Span) : Binary64 :=
  (Binary64.ofNat s.seconds).add
    ((Binary64.ofNat s.subsecond).div (Binary64.ofNat nanosPerSecond))

/-- The span of a binary64 number of seconds, which must not be negative and must be less than
2 ^ 64. -/
def ofBinary64 (x : Binary64) : Except SpanFault Span :=
  if x.lt .zero then .error .negative
  else
    match x with
    | .finite _ units =>
      let n := Binary64.nearestQuotient (units * nanosPerSecond) Binary64.unitsPerOne
      if h : n < tooManyNanos then .ok ⟨n, h⟩ else .error .tooLong
    | _ => .error .tooLong

/-- A count of a unit with the digits of its remainder behind a point, as far as they are not
zero. -/
def count (whole remainder places : Nat) : Text :=
  let run := Natural.digits remainder
  let padded := List.replicate (places - run.length) '0' ++ run
  match Text.dropEndWhile (· == '0') padded with
  | [] => Natural.digits whole
  | fraction => Natural.digits whole ++ '.' :: fraction

/-- A span in the largest of the units second, millisecond, microsecond and nanosecond of which it
holds one. -/
def describe (s : Span) : Text :=
  if nanosPerSecond ≤ s.nanos then count s.seconds s.subsecond 9 ++ "s".toList
  else if 1000000 ≤ s.nanos then
    count (s.nanos / 1000000) (s.nanos % 1000000) 6 ++ "ms".toList
  else if 1000 ≤ s.nanos then count (s.nanos / 1000) (s.nanos % 1000) 3 ++ "µs".toList
  else count s.nanos 0 0 ++ "ns".toList

/-- Zeros at the end of the fraction are left out. -/
example : (ofMillis 1500).describe = "1.5s".toList ∧ (ofMillis 2).describe = "2ms".toList := by
  decide

end Span

/-- A moment, as the nanoseconds since a fixed beginning. -/
structure Instant where
  nanos : Nat
  deriving DecidableEq

/-- The span from an earlier instant to this one, and none if the other is not earlier. -/
def Instant.since (now earlier : Instant) : Span :=
  Span.ofNanos (now.nanos - earlier.nanos)

end TimingBoard
