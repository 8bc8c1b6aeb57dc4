import TimingBoard.Request
import TimingBoard.Text.CharacterClass
import TimingBoard.Time.Span
import TimingBoard.Time.Unit

/-!
# Times as text

The board's timing settings are texts: digits with at most one point, and then perhaps the letter
of a unit. A time keeps the spelling it was given, so what was read is sent back unchanged. The
text `0u` stands for "leave this setting alone".

As a span, a time without a unit counts microseconds, which is the board's own unit. A countdown
makes sense only for times in seconds, minutes or hours.
-/

namespace TimingBoard

/-- A time in its own spelling. -/
structure TimeText where
  magnitude : Text
  unit : Option TimeUnit
  deriving DecidableEq

namespace TimeText

/-! ## Reading and writing -/

/-- A time as text. -/
def text (t : TimeText) : Text :=
  t.magnitude ++ (t.unit.map TimeUnit.letter).toList

/-- The time that leaves a setting alone. -/
def unchanged : TimeText := ⟨['0'], some .micros⟩

/-- Whether a time leaves its setting alone, by its spelling. -/
def isUnchanged (t : TimeText) : Bool :=
  t.text == "0u".toList

/-- The digits that a text starts with, a point if one follows, and the digits after it; and the
rest of the text. Digits of any script count. -/
def cutMagnitude (t : Text) : Text × Text :=
  let whole := t.takeWhile Text.isDecimalDigit
  match whole, t.dropWhile Text.isDecimalDigit with
  | [], rest => ([], rest)
  | whole, '.' :: rest =>
    (whole ++ '.' :: rest.takeWhile Text.isDecimalDigit, rest.dropWhile Text.isDecimalDigit)
  | whole, rest => (whole, rest)

/-- The unit that the rest of a time after its magnitude gives: the letter of one, or none when
nothing is left. -/
def readUnit? : Text → Option (Option TimeUnit)
  | [] => some none
  | [c] => (TimeUnit.ofLetter? c).map some
  | _ => none

/-- Reads a time, whatever white space is around it. The number must be finite. -/
def read (t : Text) : Except Refusal TimeText :=
  match cutMagnitude (Text.trim t) with
  | ([], _) => .error (.notATime t)
  | (magnitude, rest) =>
    match readUnit? rest with
    | none => .error (.notATime t)
    | some unit =>
      match Binary64.read? magnitude with
      | some x => if x.isFinite then .ok ⟨magnitude, unit⟩ else .error (.timeOutOfRange t)
      | none => .error (.timeOutOfRange t)

/-- The time of a number and a unit. -/
def ofNumber (x : Binary64) (unit : TimeUnit) : TimeText :=
  ⟨x.plain, some unit⟩

/-! ## What a time means -/

/-- The number before the unit. -/
def value (t : TimeText) : Binary64 :=
  (Binary64.read? t.magnitude).getD .zero

/-- The number in seconds. -/
def inSeconds (t : TimeText) (unit : TimeUnit) : Binary64 :=
  t.value.mul unit.length

/-- The span of a time. A number that is not positive gives no time, and one that is too large the
longest span. -/
def span (t : TimeText) : Span :=
  let x := t.inSeconds (t.unit.getD .micros)
  match Span.ofBinary64 (if Binary64.zero.lt x then x else .zero) with
  | .ok s => s
  | .error _ => .longest

/-- The seconds that a countdown of this length starts from; zero when there is no countdown. -/
def countdownSeconds (t : TimeText) : Binary64 :=
  match t.unit with
  | some unit => if unit.isCountable then t.inSeconds unit else .zero
  | none => .zero

end TimeText

end TimingBoard
