import TimingBoard.Time.Span

/-!
# Countdowns

What is left of a run, for display. Past its end the countdown goes on as an overrun, which is shown
with a minus sign. The text gives whole hours, minutes and seconds, and a fraction of a second is
cut off; hours take as many digits as they need, and at least two.
-/

namespace TimingBoard

/-- The time left of a run. -/
inductive Countdown where
  /-- No run is timed. -/
  | inactive
  | remaining (left : Span)
  | overrun (past : Span)
  deriving DecidableEq

namespace Countdown

/-- The span of a number of seconds, or the longest span for a number that has none. -/
def saturated (seconds : Binary64) : Span :=
  match Span.ofBinary64 seconds with
  | .ok s => s
  | .error _ => .longest

/-- The countdown of a signed number of seconds that are left. -/
def ofSeconds (left : Binary64) : Countdown :=
  if Binary64.zero.le left then .remaining (saturated left) else .overrun (saturated left.neg)

/-- The signed number of seconds that are left, zero when no run is timed. -/
def seconds : Countdown → Binary64
  | .inactive => .zero
  | .remaining left => left.toBinary64
  | .overrun past => past.toBinary64.neg

/-- Whether the run is past its end. -/
def isOverrun : Countdown → Bool
  | .overrun _ => true
  | _ => false

/-- The span without its sign. -/
def span? : Countdown → Option Span
  | .inactive => none
  | .remaining left => some left
  | .overrun past => some past

/-- The whole seconds that are shown. -/
def wholeSeconds (c : Countdown) : Nat :=
  (c.span?.getD .zero).seconds

/-- A number with at least two digits. -/
def twoDigits (n : Nat) : Text :=
  let run := Natural.digits n
  List.replicate (2 - run.length) '0' ++ run

/-- A countdown as text. -/
def text (c : Countdown) : Text :=
  let total := c.wholeSeconds
  (if c.isOverrun then "- ".toList else []) ++ twoDigits (total / 3600) ++
    ':' :: twoDigits (total % 3600 / 60) ++ ':' :: twoDigits (total % 60)

/-- An overrun of less than a second still has its sign. -/
example : (overrun (.ofMillis 250)).text = "- 00:00:00".toList := by decide

end Countdown

end TimingBoard
