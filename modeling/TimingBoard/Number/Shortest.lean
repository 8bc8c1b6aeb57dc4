import TimingBoard.Number.Numeral

/-!
# Shortest decimals

A binary64 number is shown with the fewest digits that are read back as the same number, and among
those with the digits nearest to it. The numbers that read back are the decimals within half a
spacing of it; the two ends of that interval belong to it when the number is the even one of its
neighbours.

The decimals with a given number of digits form a grid, and if any point of the grid lies in the
interval, one of the two next to the number does. So the grids are tried from the coarsest on, and
only those two points of each.
-/

namespace TimingBoard.Binary64

/-- Which of two equally near decimals is taken. -/
inductive DecimalTie where
  /-- The larger magnitude. -/
  | away
  /-- The one whose last digit is even. -/
  | even
  deriving DecidableEq

/-- The decimals that read back as a number, in quarters of a unit. -/
structure ReadBack where
  low : Nat
  high : Nat
  endsIncluded : Bool

/-- The decimals that read back as the number of a magnitude. Below a power of two the next number
is only half as far away. -/
def readBack (units : Nat) : ReadBack :=
  let step := spacing units
  let below := if units = Nat.pow 2 units.log2 ∧ step ≠ 1 then step else 2 * step
  ⟨4 * units - below, 4 * units + 2 * step, units / step % 2 = 0⟩

/-- Whether a decimal lies among those that read back: `point / den` in quarters of a unit. -/
def ReadBack.contains (r : ReadBack) (point den : Nat) : Bool :=
  if r.endsIncluded then r.low * den ≤ point && point ≤ r.high * den
  else r.low * den < point && point < r.high * den

/-- The exponent of the first digit of a magnitude that is not zero. -/
def firstExponent (units : Nat) : Int :=
  (Nat.toDigits 10 (units * Nat.pow 10 324 / unitsPerOne)).length - 325

/-- The decimal on the grid of powers `10 ^ power` that is taken for a magnitude, if one of the two
next to the magnitude reads back. -/
def onGrid? (tie : DecimalTie) (units : Nat) (power : Int) : Option Numeral :=
  let step := 4 * unitsPerOne * Nat.pow 10 power.toNat
  let den := Nat.pow 10 (-power).toNat
  let value := 4 * units * den
  let c := value / step
  let rest := value % step
  let interval := readBack units
  match interval.contains (c * step) den, interval.contains ((c + 1) * step) den with
  | false, false => none
  | true, false => some ⟨c, power⟩
  | false, true => some ⟨c + 1, power⟩
  | true, true =>
    let lower :=
      2 * rest < step || (2 * rest == step && tie == .even && c % 2 == 0)
    some ⟨if lower then c else c + 1, power⟩

/-- A decimal without zeros at the end of its coefficient. -/
def withoutTrailingZeros : Nat → Numeral → Numeral
  | 0, n => n
  | k + 1, n =>
    if n.coefficient ≠ 0 ∧ n.coefficient % 10 = 0 then
      withoutTrailingZeros k ⟨n.coefficient / 10, n.exponent + 1⟩
    else n

/-- The shortest decimal that reads back as the number of a magnitude. Seventeen digits are always
enough. -/
def shortest (tie : DecimalTie) (units : Nat) : Numeral :=
  if units = 0 then ⟨0, 0⟩
  else
    let first := firstExponent units
    let found := (List.range 17).findSome? fun k : Nat => onGrid? tie units (first - k)
    withoutTrailingZeros 17 (found.getD ⟨0, 0⟩)

/-- The shortest decimal for 0.1 + 0.2 needs all seventeen digits. -/
example : (match (ofDecimal false 1 (-1)).add (ofDecimal false 2 (-1)) with
    | .finite _ units => shortest .even units
    | _ => ⟨0, 0⟩) = ⟨30000000000000004, -17⟩ := by decide +kernel

end TimingBoard.Binary64
