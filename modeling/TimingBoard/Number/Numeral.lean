import TimingBoard.Number.Binary64
import TimingBoard.Number.Natural

/-!
# Numerals

A numeral is digits with at most one point among them, then perhaps an exponent. It stands for a
whole number of powers of ten, and the binary64 number it is read as is the one nearest to that.
A sign may come first, and `inf`, `infinity` and `nan` are numbers too, in any case of letters.
-/

namespace TimingBoard

/-- A decimal number: `coefficient * 10 ^ exponent`. -/
structure Numeral where
  coefficient : Nat
  exponent : Int
  deriving DecidableEq

namespace Numeral

/-- The exponent that a text after the digits gives: none for no text, and otherwise the letter `e`,
an optional sign and at least one digit. -/
def readExponent? : Text → Option Int
  | [] => some 0
  | e :: rest =>
    if e = 'e' ∨ e = 'E' then
      let (negative, run) :=
        match rest with
        | '-' :: r => (true, r)
        | '+' :: r => (false, r)
        | r => (false, r)
      if run ≠ [] ∧ run.all Char.isDigit then
        some (if negative then -(Natural.value run : Int) else Natural.value run)
      else none
    else none

/-- Reads digits with at most one point, at least one digit in all, and an optional exponent. -/
def read? (t : Text) : Option Numeral := do
  let whole := t.takeWhile Char.isDigit
  let rest := t.dropWhile Char.isDigit
  let (fraction, rest) :=
    match rest with
    | '.' :: r => (r.takeWhile Char.isDigit, r.dropWhile Char.isDigit)
    | r => ([], r)
  let exponent ← readExponent? rest
  if whole ++ fraction = [] then none
  else some ⟨Natural.value (whole ++ fraction), exponent - fraction.length⟩

end Numeral

namespace Binary64

/-- Reads a number without its sign. -/
def readMagnitude? (negative : Bool) (t : Text) : Option Binary64 :=
  match Numeral.read? t with
  | some n => some (ofDecimal negative n.coefficient n.exponent)
  | none =>
    let word := t.map Char.toLower
    if word = "inf".toList ∨ word = "infinity".toList then some (.infinite negative)
    else if word = "nan".toList then some .nan
    else none

/-- Reads a number with an optional sign. -/
def read? : Text → Option Binary64
  | '-' :: t => readMagnitude? true t
  | '+' :: t => readMagnitude? false t
  | t => readMagnitude? false t

end Binary64

end TimingBoard
