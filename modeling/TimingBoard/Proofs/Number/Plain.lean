import TimingBoard.Number.Layout
import TimingBoard.Proofs.Number.Decimal
import TimingBoard.Proofs.Number.Shortest

/-!
# Numbers in plain text

The plain text of a number that is finite and has no minus sign is a decimal, and this decimal is
below the limit, so that it is read as a finite number again.  The plain text of any other number
does not start with a digit: a minus sign or a letter comes first, and also a zero may have a minus
sign.
-/

namespace TimingBoard

namespace Natural

/-- Each zero behind digits multiplies their number by ten. -/
lemma value_append_zeros (t : Text) (k : Nat) :
    value (t ++ List.replicate k '0') = value t * 10 ^ k := by
  induction k with
  | zero => simp
  | succ k ih =>
    have hlast (u : Text) : value (u ++ ['0']) = 10 * value u := by
      simp [value]
    rw [List.replicate_succ', ← List.append_assoc, hlast, ih, pow_succ]
    ring

/-- Zeros in front of digits make no difference. -/
lemma value_zeros_append (k : Nat) (t : Text) : value (List.replicate k '0' ++ t) = value t := by
  induction k with
  | zero => rfl
  | succ k ih =>
    rw [List.replicate_succ, List.cons_append, ← ih]
    rfl

end Natural

namespace Numeral

variable (n : Numeral)

lemma positional_ne_nil : n.positional.1 ≠ [] := by
  unfold positional
  simp only
  split
  · simp [Natural.digits_ne_nil]
  · intro h
    have hlength := congrArg List.length h
    have hrun := List.length_pos_of_ne_nil (Natural.digits_ne_nil n.coefficient)
    simp only [List.length_take, List.length_append, List.length_replicate,
      List.length_nil] at hlength
    omega

/-- The decimal in which a number is laid out. -/
def decimal : Decimal where
  whole := n.positional.1
  fraction := if n.positional.2 = [] then none else some n.positional.2
  whole_ne_nil := n.positional_ne_nil
  isDigit := by
    intro c hc
    refine TimeText.isDigit_of_mem_positional n c ?_
    split at hc
    · next hnone => rwa [hnone]
    · exact hc

lemma fraction_decimal : n.decimal.fraction.getD [] = n.positional.2 := by
  simp only [decimal]
  split
  · next hnone => rw [hnone, Option.getD_none]
  · rfl

/-- The digits of the layout are the coefficient, and zeros for a positive exponent. -/
lemma coefficient_decimal : n.decimal.coefficient = n.coefficient * 10 ^ n.exponent.toNat := by
  rw [Decimal.coefficient, fraction_decimal, decimal]
  unfold positional
  simp only
  split
  · rw [List.append_nil, Natural.value_append_zeros, Natural.value_digits]
  · next hneg =>
    rw [List.take_append_drop, Natural.value_zeros_append, Natural.value_digits,
      show n.exponent.toNat = 0 by omega, pow_zero, mul_one]

/-- There are as many places behind the point as a negative exponent asks for. -/
lemma places_decimal : n.decimal.places = (-n.exponent).toNat := by
  rw [Decimal.places, fraction_decimal]
  unfold positional
  simp only
  split
  · simp only [List.length_nil]
    omega
  · simp only [List.length_drop, List.length_append, List.length_replicate]
    omega

/-- The layout of a number below the limit is read as a finite number. -/
lemma IsBelow.value_decimal (h : n.IsBelow) : n.decimal.value < 2 ^ 1024 - 2 ^ 970 := by
  rw [← Decimal.isFinite_iff, Binary64.isFinite_ofDecimal_iff, coefficient_decimal, places_decimal]
  exact h

end Numeral

namespace Binary64

variable {x : Binary64} {units : Nat}

/-- A finite number without a minus sign is written as the decimal of its shortest digits. -/
lemma plain_finite (units : Nat) :
    plain (.finite false units) = (shortest .away units).decimal.text := by
  unfold plain Decimal.text Numeral.decimal
  simp only
  split
  · next whole hlayout => simp [hlayout, sign]
  · next whole fraction hfraction hlayout =>
    have hne : fraction ≠ [] := fun h => hfraction h
    simp [hlayout, sign, hne]

/-- A number with a minus sign starts with it. -/
lemma head?_plain_finite (units : Nat) : (plain (.finite true units)).head? = some '-' := by
  unfold plain
  simp only
  split <;> rfl

/-- Only a finite number without a minus sign starts with a digit, of whatever script. -/
lemma exists_finite_of_head (h : ∃ c ∈ x.plain.head?, Text.isDecimalDigit c = true) :
    ∃ units, x = .finite false units := by
  obtain ⟨c, hc, hdigit⟩ := h
  cases x with
  | nan =>
    obtain rfl : 'N' = c := Option.some.inj hc
    cases hdigit
  | infinite negative =>
    cases negative with
    | false =>
      obtain rfl : 'i' = c := Option.some.inj hc
      cases hdigit
    | true =>
      obtain rfl : '-' = c := Option.some.inj hc
      cases hdigit
  | finite negative units =>
    cases negative with
    | false => exact ⟨units, rfl⟩
    | true =>
      rw [head?_plain_finite] at hc
      obtain rfl : '-' = c := Option.some.inj hc
      cases hdigit

end Binary64

end TimingBoard
