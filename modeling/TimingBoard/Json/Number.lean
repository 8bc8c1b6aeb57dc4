import TimingBoard.Json.Basic
import TimingBoard.Number.Numeral

/-!
# Numbers of JSON

A whole number must be written as one: digits only, and without the sign that would make a zero
negative. Any literal is also a binary64 number. Its digits are gathered as long as they fit 64
bits, further ones only count as places; the gathered number is rounded, and scaled by a power of
ten with one more rounding. A literal that is too large for binary64 is no number.
-/

namespace TimingBoard.Json

/-- A whole number below a limit. -/
def unsigned? (limit : Nat) : Json → Option Nat
  | .number literal =>
    if literal.all Char.isDigit ∧ Natural.value literal < limit then some (Natural.value literal)
    else none
  | _ => none

/-- The number that digits extend a given one to, as long as it fits 64 bits, and the count of the
digits that were taken. -/
def gather (n : Nat) : Text → Nat × Nat
  | [] => (n, 0)
  | d :: rest =>
    let m := 10 * n + (d.toNat - '0'.toNat)
    if m < UInt64.size then ((gather m rest).1, (gather m rest).2 + 1) else (n, 0)

/-- A power of ten as a binary64 number. -/
def powerOfTen (k : Nat) : Binary64 :=
  .ofDecimal false 1 k

/-- A number times a power of ten, rounded once for each factor of at most 10 ^ 308; nothing when
it would be too large. -/
def scale? (x : Binary64) (exponent : Int) : Option Binary64 :=
  if 308 < exponent then if x = .zero then some x else none
  else if 0 ≤ exponent then
    let scaled := x.mul (powerOfTen exponent.toNat)
    if scaled.isFinite then some scaled else none
  else if -308 ≤ exponent then some (x.div (powerOfTen (-exponent).toNat))
  else if -616 ≤ exponent then
    some ((x.div (powerOfTen 308)).div (powerOfTen (-exponent - 308).toNat))
  else some .zero

/-- The binary64 number of a literal without its sign. -/
def magnitude? (literal : Text) : Option Binary64 := do
  let whole := literal.takeWhile Char.isDigit
  let (fraction, rest) :=
    match literal.dropWhile Char.isDigit with
    | '.' :: rest => (rest.takeWhile Char.isDigit, rest.dropWhile Char.isDigit)
    | rest => ([], rest)
  let exponent ← Numeral.readExponent? rest
  let (n, taken) := gather 0 whole
  let (n, placed) := gather n fraction
  scale? (.ofNat n) (exponent + (whole.length - taken : Nat) - placed)

/-- The binary64 number of a value that is a number. -/
def binary64? : Json → Option Binary64
  | .number ('-' :: literal) => (magnitude? literal).map Binary64.neg
  | .number literal => magnitude? literal
  | _ => none

end TimingBoard.Json
