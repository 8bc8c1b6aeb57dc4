/-!
# Binary64 numbers

The board's times and the client's settings are computed in IEEE 754 binary64. Every finite
binary64 number is a whole multiple of 2 ^ -1074, so a finite number is kept as its sign and that
multiple: equality and order are those of natural numbers, and a result is exact arithmetic
followed by one rounding.

A rounding keeps 53 significant bits, goes to the nearer neighbour, and to the even one from half
way. A magnitude that would round to 2 ^ 1024 or more becomes infinite. The sign of a zero is kept.
-/

namespace TimingBoard

/-- A binary64 number. The magnitude of a finite one is counted in units of 2 ^ -1074. -/
inductive Binary64 where
  | nan
  | infinite (negative : Bool)
  | finite (negative : Bool) (units : Nat)
  deriving DecidableEq

namespace Binary64

/-! ## Rounding -/

/-- The number of units in one. -/
def unitsPerOne : Nat := Nat.pow 2 1074

/-- The first magnitude that is not finite, in units. -/
def overflow : Nat := Nat.pow 2 2098

/-- The whole number nearest to a quotient, and the even one of two that are equally near. -/
def nearestQuotient (num den : Nat) : Nat :=
  let q := num / den
  let twice := 2 * (num % den)
  if twice < den ∨ (twice = den ∧ q % 2 = 0) then q else q + 1

/-- The distance in units between neighbouring numbers of a magnitude: the power of two that leaves
53 significant bits. -/
def spacing (units : Nat) : Nat :=
  Nat.pow 2 (units.log2 - 52)

/-- The number of a sign nearest to a magnitude of `num / den` units. -/
def round (negative : Bool) (num den : Nat) : Binary64 :=
  let step := spacing (num / den)
  let units := nearestQuotient num (den * step) * step
  if units < overflow then .finite negative units else .infinite negative

/-- Zero. -/
def zero : Binary64 := .finite false 0

/-- The number nearest to a natural number. -/
def ofNat (n : Nat) : Binary64 :=
  round false (n * unitsPerOne) 1

/-- The number nearest to `n * 10 ^ e`, with a sign. Powers of ten so large or so small that they
decide the result by themselves are not computed. -/
def ofDecimal (negative : Bool) (n : Nat) (e : Int) : Binary64 :=
  let places : Int := (Nat.toDigits 10 n).length + e
  if n = 0 ∨ places < -330 then .finite negative 0
  else if 310 < places then .infinite negative
  else if 0 ≤ e then round negative (n * Nat.pow 10 e.toNat * unitsPerOne) 1
  else round negative (n * unitsPerOne) (Nat.pow 10 (-e).toNat)

/-! ## Order -/

/-- Neither infinite nor a NaN. -/
def isFinite : Binary64 → Bool
  | .finite _ _ => true
  | _ => false

/-- A number as a signed count of units, infinities beyond all others; a NaN has no place. -/
def rank? : Binary64 → Option Int
  | .nan => none
  | .infinite negative => some (if negative then -overflow else overflow)
  | .finite negative units => some (if negative then -units else units)

/-- Less than. A NaN is less than nothing, and nothing is less than it; the two zeros are equal. -/
def lt (a b : Binary64) : Bool :=
  match a.rank?, b.rank? with
  | some x, some y => x < y
  | _, _ => false

/-- Less than or equal to. -/
def le (a b : Binary64) : Bool :=
  match a.rank?, b.rank? with
  | some x, some y => x ≤ y
  | _, _ => false

/-! ## Arithmetic -/

/-- The number of the opposite sign. -/
def neg : Binary64 → Binary64
  | .nan => .nan
  | .infinite negative => .infinite (!negative)
  | .finite negative units => .finite (!negative) units

/-- The sum. Opposite numbers add up to the positive zero. -/
def add : Binary64 → Binary64 → Binary64
  | .finite s a, .finite t b =>
    if s = t then round s (a + b) 1
    else if a = b then zero
    else if b < a then round s (a - b) 1
    else round t (b - a) 1
  | .infinite s, .infinite t => if s = t then .infinite s else .nan
  | .infinite s, .finite _ _ => .infinite s
  | .finite _ _, .infinite t => .infinite t
  | _, _ => .nan

/-- The difference. -/
def sub (a b : Binary64) : Binary64 :=
  a.add b.neg

/-- The product. -/
def mul : Binary64 → Binary64 → Binary64
  | .finite s a, .finite t b => round (s != t) (a * b) unitsPerOne
  | .infinite s, .infinite t => .infinite (s != t)
  | .infinite s, .finite t b => if b = 0 then .nan else .infinite (s != t)
  | .finite s a, .infinite t => if a = 0 then .nan else .infinite (s != t)
  | _, _ => .nan

/-- The quotient. -/
def div : Binary64 → Binary64 → Binary64
  | .finite s a, .finite t b =>
    if b = 0 then (if a = 0 then .nan else .infinite (s != t))
    else round (s != t) (a * unitsPerOne) b
  | .infinite s, .finite t _ => .infinite (s != t)
  | .finite s _, .infinite t => .finite (s != t) 0
  | _, _ => .nan

/-- The least whole number that is not below a number, with the sign of the number. -/
def ceil : Binary64 → Binary64
  | .finite false units =>
    .finite false ((units + (unitsPerOne - 1)) / unitsPerOne * unitsPerOne)
  | .finite true units => .finite true (units / unitsPerOne * unitsPerOne)
  | x => x

/-! ## The interchange format -/

/-- The 64 bits of a number: sign, eleven bits of exponent, 52 bits of fraction. -/
def toBits : Binary64 → Nat
  | .nan => 0x7FF8000000000000
  | .infinite negative => signBit negative + 0x7FF0000000000000
  | .finite negative units =>
    if units < Nat.pow 2 52 then signBit negative + units
    else
      let shift := units.log2 - 52
      signBit negative + shift * Nat.pow 2 52 + units / Nat.pow 2 shift
where
  /-- The highest bit, set for a negative number. -/
  signBit (negative : Bool) : Nat := if negative then Nat.pow 2 63 else 0

/-- The nearest number to one tenth is not one tenth. -/
example : (ofDecimal false 1 (-1)).toBits = 0x3FB999999999999A := by
  decide +kernel

/-- The least number that is not zero has the last bit set, and half of it rounds to zero. -/
example : (ofDecimal false 5 (-324)).toBits = 1 ∧ (ofDecimal false 2 (-324)).toBits = 0 := by
  decide +kernel

end Binary64

end TimingBoard
