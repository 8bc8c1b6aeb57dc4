import TimingBoard.Number.Shortest

/-!
# How numbers are laid out

The same shortest decimal is written in two ways. Plain text never uses an exponent and writes a
whole number without a point. A settings file marks every number as a fractional one, with `.0` if
need be, and uses an exponent from 10 ^ 16 on and below 10 ^ -5. A third layout has a fixed number
of places after the point and rounds the exact value, half way to the even digit.
-/

namespace TimingBoard

/-- The digits of a decimal with its point in place, and a zero before or behind the point where
there is no digit. -/
def Numeral.positional (n : Numeral) : Text × Text :=
  let run := Natural.digits n.coefficient
  if 0 ≤ n.exponent then (run ++ List.replicate n.exponent.toNat '0', [])
  else
    let places := (-n.exponent).toNat
    let padded := List.replicate (places + 1 - run.length) '0' ++ run
    (padded.take (padded.length - places), padded.drop (padded.length - places))

namespace Binary64

/-- A minus sign for a negative number. -/
def sign (negative : Bool) : Text :=
  if negative then ['-'] else []

/-- A number in plain text. -/
def plain : Binary64 → Text
  | .nan => "NaN".toList
  | .infinite negative => sign negative ++ "inf".toList
  | .finite negative units =>
    match (shortest .away units).positional with
    | (whole, []) => sign negative ++ whole
    | (whole, fraction) => sign negative ++ whole ++ '.' :: fraction

/-- A decimal with an exponent, one digit before the point. -/
def scientific (n : Numeral) : Text :=
  let run := Natural.digits n.coefficient
  let exponent := n.exponent + (run.length - 1 : Nat)
  let mantissa :=
    match run with
    | [] => []
    | [d] => [d]
    | d :: rest => d :: '.' :: rest
  mantissa ++ 'e' :: (if exponent < 0 then ['-'] else ['+']) ++ Natural.digits exponent.natAbs

/-- A finite number as a settings file holds it; nothing for the others, which it cannot hold. -/
def fractional? : Binary64 → Option Text
  | .finite negative units =>
    let n := shortest .even units
    let first := n.exponent + ((Natural.digits n.coefficient).length - 1 : Nat)
    if -5 ≤ first ∧ first < 16 then
      match n.positional with
      | (whole, []) => some (sign negative ++ whole ++ ".0".toList)
      | (whole, fraction) => some (sign negative ++ whole ++ '.' :: fraction)
    else some (sign negative ++ scientific n)
  | _ => none

/-- A number with a fixed count of places after the point. -/
def fixed (places : Nat) : Binary64 → Text
  | .nan => "NaN".toList
  | .infinite negative => sign negative ++ "inf".toList
  | .finite negative units =>
    let scaled := nearestQuotient (units * Nat.pow 10 places) unitsPerOne
    match (Numeral.mk scaled (-(places : Int))).positional with
    | (whole, []) => sign negative ++ whole
    | (whole, fraction) => sign negative ++ whole ++ '.' :: fraction

/-- A whole number has a point in a settings file only. -/
example : (ofNat 2).plain = "2".toList ∧ (ofNat 2).fractional? = some "2.0".toList := by
  decide +kernel

/-- A fixed place rounds the exact binary value, and keeps the sign of a zero. -/
example : ((ofDecimal true 1 (-2)).fixed 1) = "-0.0".toList := by decide +kernel

end Binary64

end TimingBoard
