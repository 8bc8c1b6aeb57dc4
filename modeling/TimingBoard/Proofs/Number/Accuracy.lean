import Mathlib.Tactic.IntervalCases
import TimingBoard.Proofs.Number.Nearest

/-!
# How accurate calculations are

A calculation is rounded once for each number it makes.  While all numbers have 53 significant bits,
each rounding changes its number by at most the 2 ^ 53rd part, so that the error of the result is a
little more than this part for each rounding.  Whole numbers below 2 ^ 53 and the powers of ten up
to 10 ^ 22 are numbers of the format, and make no error.
-/

namespace TimingBoard.Binary64

variable {a b c q : ℚ} {units r s k n : ℕ} {negative : Bool}

-- The number of units in one is too large to be looked at.
attribute [local irreducible] unitsPerOne

/-! ## Relative errors -/

/-- The largest part of itself by which a rounding changes a number. -/
def unitRoundoff : ℚ := 1 / 2 ^ 53

/-- A number is another one after at most so many roundings. -/
structure Within (r : ℕ) (a b : ℚ) : Prop where
  low : a * (1 - unitRoundoff) ^ r ≤ b
  high : b ≤ a * (1 + unitRoundoff) ^ r

lemma unitRoundoff_nonneg : 0 ≤ unitRoundoff ∧ 0 ≤ 1 - unitRoundoff := by
  norm_num [unitRoundoff]

namespace Within

lemma trans (h : Within r a b) (h' : Within s b c) : Within (r + s) a c := by
  obtain ⟨hpos, hless⟩ := unitRoundoff_nonneg
  constructor
  · calc a * (1 - unitRoundoff) ^ (r + s)
        = a * (1 - unitRoundoff) ^ r * (1 - unitRoundoff) ^ s := by ring
      _ ≤ b * (1 - unitRoundoff) ^ s := mul_le_mul_of_nonneg_right h.low (pow_nonneg hless s)
      _ ≤ c := h'.low
  · calc c ≤ b * (1 + unitRoundoff) ^ s := h'.high
      _ ≤ a * (1 + unitRoundoff) ^ r * (1 + unitRoundoff) ^ s :=
        mul_le_mul_of_nonneg_right h.high (pow_nonneg (by linarith) s)
      _ = a * (1 + unitRoundoff) ^ (r + s) := by ring

lemma mono (h : Within r a b) (ha : 0 ≤ a) (hrs : r ≤ s) : Within s a b := by
  obtain ⟨hpos, hless⟩ := unitRoundoff_nonneg
  constructor
  · exact (mul_le_mul_of_nonneg_left (pow_le_pow_of_le_one hless (by linarith) hrs) ha).trans h.low
  · exact h.high.trans (mul_le_mul_of_nonneg_left (pow_le_pow_right₀ (by linarith) hrs) ha)

lemma mul_right (h : Within r a b) (hc : 0 ≤ c) : Within r (a * c) (b * c) := by
  constructor
  · rw [mul_right_comm]
    exact mul_le_mul_of_nonneg_right h.low hc
  · rw [mul_right_comm]
    exact mul_le_mul_of_nonneg_right h.high hc

lemma pos (h : Within r a b) (ha : 0 < a) : 0 < b := by
  have hless : 0 < 1 - unitRoundoff := by norm_num [unitRoundoff]
  exact (mul_pos ha (pow_pos hless r)).trans_le h.low

lemma add {d : ℚ} (h : Within r a b) (h' : Within r c d) : Within r (a + c) (b + d) := by
  constructor
  · rw [add_mul]
    exact add_le_add h.low h'.low
  · rw [add_mul]
    exact add_le_add h.high h'.high

/-- Dividing by a number that has been rounded counts as two roundings. -/
lemma div_left (h : Within 1 a b) (ha : 0 < a) (hc : 0 ≤ c) : Within 2 (c / a) (c / b) := by
  have hb := h.pos ha
  have hlow : (1 - unitRoundoff) ^ 2 * (1 + unitRoundoff) ≤ 1 := by norm_num [unitRoundoff]
  have hhigh : 1 ≤ (1 + unitRoundoff) ^ 2 * (1 - unitRoundoff) := by norm_num [unitRoundoff]
  obtain ⟨hdown, hup⟩ := h
  rw [pow_one] at hdown hup
  constructor
  · rw [div_mul_eq_mul_div, div_le_div_iff₀ ha hb]
    calc c * (1 - unitRoundoff) ^ 2 * b ≤ c * (1 - unitRoundoff) ^ 2 * (a * (1 + unitRoundoff)) :=
          mul_le_mul_of_nonneg_left hup (mul_nonneg hc (sq_nonneg _))
      _ = c * a * ((1 - unitRoundoff) ^ 2 * (1 + unitRoundoff)) := by ring
      _ ≤ c * a * 1 := mul_le_mul_of_nonneg_left hlow (mul_nonneg hc ha.le)
      _ = c * a := mul_one _
  · rw [div_mul_eq_mul_div, div_le_div_iff₀ hb ha]
    calc c * a = c * a * 1 := (mul_one _).symm
      _ ≤ c * a * ((1 + unitRoundoff) ^ 2 * (1 - unitRoundoff)) :=
        mul_le_mul_of_nonneg_left hhigh (mul_nonneg hc ha.le)
      _ = c * (1 + unitRoundoff) ^ 2 * (a * (1 - unitRoundoff)) := by ring
      _ ≤ c * (1 + unitRoundoff) ^ 2 * b :=
        mul_le_mul_of_nonneg_left hdown (mul_nonneg hc (sq_nonneg _))

/-- The error after a few roundings is hardly more than the sum of their errors. -/
lemma abs_sub_le (h : Within r a b) (ha : 0 ≤ a) (hr : r ≤ 7) :
    |b - a| ≤ a * (r * (1025 / 1024) * unitRoundoff) := by
  have hlow : 1 - r * (1025 / 1024) * unitRoundoff ≤ (1 - unitRoundoff) ^ r := by
    interval_cases r <;> norm_num [unitRoundoff]
  have hhigh : (1 + unitRoundoff) ^ r ≤ 1 + r * (1025 / 1024) * unitRoundoff := by
    interval_cases r <;> norm_num [unitRoundoff]
  have hdown := (mul_le_mul_of_nonneg_left hlow ha).trans h.low
  have hup := h.high.trans (mul_le_mul_of_nonneg_left hhigh ha)
  rw [abs_le]
  constructor <;> linarith

end Within

/-- A change by at most half a spacing is as good as one rounding. -/
lemma within_one_of_abs_sub_le (h : |b - a| ≤ a * unitRoundoff) : Within 1 a b := by
  obtain ⟨hlow, hhigh⟩ := abs_le.1 h
  constructor <;> linarith

/-! ## Roundings of values -/

/-- The value of a number of units. -/
def magnitude (units : ℕ) : ℚ := units / unitsPerOne

lemma unitsPerOne_pos' : (0 : ℚ) < unitsPerOne := by
  exact_mod_cast unitsPerOne_pos

lemma magnitude_mul (units : ℕ) : magnitude units * unitsPerOne = units :=
  div_mul_cancel₀ _ unitsPerOne_pos'.ne'

lemma eq_mul_unitsPerOne (h : magnitude units = n) : units = n * unitsPerOne := by
  have hcast := magnitude_mul units
  rw [h] at hcast
  exact_mod_cast hcast.symm

lemma magnitude_nonneg (units : ℕ) : 0 ≤ magnitude units :=
  div_nonneg (Nat.cast_nonneg _) unitsPerOne_pos'.le

lemma RoundsTo.magnitude_le (h : RoundsTo (a * unitsPerOne) units) : magnitude units ≤ 2 * a := by
  have hone := unitsPerOne_pos'
  refine le_of_mul_le_mul_right ?_ hone
  rw [magnitude_mul, mul_assoc]
  exact h.le_two_mul

/-- From the 2 ^ 100th part of one on, a value has 53 significant bits. -/
lemma le_mul_unitsPerOne (h : 1 / 2 ^ 100 ≤ a) : 2 ^ 52 ≤ a * unitsPerOne := by
  have hone : (2 : ℚ) ^ 152 ≤ unitsPerOne := by
    have hnat : 2 ^ 152 ≤ unitsPerOne :=
      (Nat.pow_le_pow_right (by decide) (by norm_num)).trans_eq unitsPerOne_eq.symm
    exact_mod_cast hnat
  calc (2 : ℚ) ^ 52 = 1 / 2 ^ 100 * 2 ^ 152 := by norm_num
    _ ≤ a * unitsPerOne := mul_le_mul h hone (by positivity) (le_trans (by positivity) h)

/-- A power of two in units, and the spacing below it. -/
lemma two_pow_mul_unitsPerOne (k : ℕ) : (2 : ℚ) ^ k * unitsPerOne = 2 ^ (k + 1021 + 53) ∧
    (2 : ℚ) ^ (k + 1021) = 2 ^ k / 2 ^ 53 * unitsPerOne := by
  have hsplit : (2 : ℚ) ^ k * unitsPerOne = 2 ^ (k + 1021 + 53) := by
    rw [unitsPerOne_eq, Nat.cast_pow, Nat.cast_ofNat, ← pow_add]
  refine ⟨hsplit, ?_⟩
  rw [div_mul_eq_mul_div, hsplit]
  generalize k + 1021 = e
  rw [pow_add, mul_div_cancel_right₀ _ (by positivity)]

/-- The error of a value below a power of two. -/
lemma RoundsTo.abs_sub_magnitude_le (h : RoundsTo (a * unitsPerOne) units) (ha : a < 2 ^ k) :
    |a - magnitude units| ≤ 2 ^ k / 2 ^ 54 := by
  have hone := unitsPerOne_pos'
  obtain ⟨hsplit, hspacing⟩ := two_pow_mul_unitsPerOne k
  have herror := h.abs_sub_le_of_lt (by rw [← hsplit]; exact mul_lt_mul_of_pos_right ha hone)
  rw [← magnitude_mul units, ← sub_mul, abs_mul, abs_of_pos hone, hspacing] at herror
  refine le_of_mul_le_mul_right (herror.trans_eq ?_) hone
  ring

/-- A value is rounded to less than a power of two exactly if it is less than half a spacing below
it. -/
lemma RoundsTo.magnitude_lt_iff (h : RoundsTo (a * unitsPerOne) units) (k : ℕ) :
    magnitude units < 2 ^ k ↔ a < 2 ^ k - 2 ^ k / 2 ^ 54 := by
  have hone := unitsPerOne_pos'
  obtain ⟨hsplit, hspacing⟩ := two_pow_mul_unitsPerOne k
  have hunits : magnitude units < 2 ^ k ↔ units < 2 ^ (k + 1021 + 53) := by
    rw [← mul_lt_mul_iff_left₀ hone, magnitude_mul, hsplit]
    exact_mod_cast Iff.rfl
  have hvalue : 2 * (a * unitsPerOne) < (2 ^ 54 - 1) * (2 ^ k / 2 ^ 53 * unitsPerOne) ↔
      a < 2 ^ k - 2 ^ k / 2 ^ 54 := by
    rw [← mul_assoc, ← mul_assoc, mul_lt_mul_iff_left₀ hone]
    constructor <;> intro hlt <;> linarith
  rw [hunits, h.lt_iff, hspacing, hvalue]

/-- The spacing of a value, by the powers of two around it. -/
lemma spacing_floor_eq (hlow : 2 ^ k ≤ a) (hhigh : a < 2 ^ (k + 1)) :
    (spacing ⌊a * unitsPerOne⌋₊ : ℚ) = 2 ^ k / 2 ^ 52 * unitsPerOne := by
  have hone := unitsPerOne_pos'
  have hpos : 0 ≤ a * unitsPerOne := mul_nonneg (le_trans (by positivity) hlow) hone.le
  obtain ⟨hsplit, hspacing⟩ := two_pow_mul_unitsPerOne (k + 1)
  have hbelow : (2 : ℚ) ^ (k + 1 + 1021 + 52) ≤ a * unitsPerOne := by
    obtain ⟨hsplit, -⟩ := two_pow_mul_unitsPerOne k
    rw [show k + 1 + 1021 + 52 = k + 1021 + 53 by ring, ← hsplit]
    exact mul_le_mul_of_nonneg_right hlow hone.le
  have habove : a * unitsPerOne < 2 ^ (k + 1 + 1021 + 53) := by
    rw [← hsplit]
    exact mul_lt_mul_of_pos_right hhigh hone
  have heq : spacing ⌊a * unitsPerOne⌋₊ = 2 ^ (k + 1 + 1021) :=
    spacing_eq (Nat.le_floor (by exact_mod_cast hbelow))
      ((Nat.floor_lt hpos).2 (by exact_mod_cast habove))
  rw [heq, Nat.cast_pow, Nat.cast_ofNat, hspacing, pow_succ]
  ring

/-- Between two powers of two the values of the format are multiples of their spacing. -/
lemma exists_magnitude_eq (hdvd : spacing units ∣ units) (hlow : 2 ^ k ≤ magnitude units)
    (hhigh : magnitude units < 2 ^ (k + 1)) : ∃ j : ℕ, magnitude units = j * (2 ^ k / 2 ^ 52) := by
  obtain ⟨j, hj⟩ := hdvd
  have hspacing := spacing_floor_eq hlow hhigh
  rw [magnitude_mul, Nat.floor_natCast] at hspacing
  refine ⟨j, mul_right_cancel₀ unitsPerOne_pos'.ne' ?_⟩
  rw [magnitude_mul, mul_assoc, ← hspacing, mul_comm]
  exact_mod_cast hj

/-- Below a power of two the values of the format leave room for one more. -/
lemma magnitude_add_le (hdvd : spacing units ∣ units) (h : magnitude units < 2 ^ k) :
    magnitude units + 2 ^ k / 2 ^ 53 ≤ 2 ^ k := by
  have hone := unitsPerOne_pos'
  obtain ⟨hsplit, hspacing⟩ := two_pow_mul_unitsPerOne k
  rw [← mul_lt_mul_iff_left₀ hone, magnitude_mul, hsplit] at h
  have hroom := add_two_pow_le hdvd (e := k + 1021) (by exact_mod_cast h)
  have hroom : (units : ℚ) + 2 ^ (k + 1021) ≤ 2 ^ (k + 1021 + 53) := by exact_mod_cast hroom
  refine le_of_mul_le_mul_right ?_ hone
  rwa [add_mul, magnitude_mul, ← hspacing, hsplit]

lemma within_of_roundsTo (h : RoundsTo (a * unitsPerOne) units) (ha : 1 / 2 ^ 100 ≤ a) :
    Within 1 a (magnitude units) := by
  have hone := unitsPerOne_pos'
  have herror := h.abs_sub_le_of_le (le_mul_unitsPerOne ha)
  refine within_one_of_abs_sub_le ?_
  rw [← magnitude_mul units, ← sub_mul, abs_mul, abs_of_pos hone, abs_sub_comm] at herror
  refine le_of_mul_le_mul_right (herror.trans_eq ?_) hone
  rw [unitRoundoff]
  ring

/-- A value that is not too large is rounded to a finite number. -/
lemma RoundsTo.lt_overflow (h : RoundsTo (a * unitsPerOne) units) (ha : a ≤ 2 ^ 900) :
    units < overflow := by
  rw [overflow_eq, show 2098 = 2045 + 53 from rfl, h.lt_iff]
  have hone : (unitsPerOne : ℚ) = 2 ^ 1074 := by
    rw [unitsPerOne_eq, Nat.cast_pow, Nat.cast_ofNat]
  have hpow {j k l : ℕ} (h : j + k ≤ l) : (2 : ℚ) ^ j * 2 ^ k ≤ 2 ^ l :=
    (pow_add ..).symm.trans_le (pow_le_pow_right₀ (by norm_num) h)
  have hpos : (0 : ℚ) < 2 ^ 2045 := by positivity
  have hle : a * unitsPerOne ≤ 2 ^ 2045 := by
    refine le_trans ?_ (hpow (show 900 + 1074 ≤ 2045 by norm_num))
    rw [hone]
    exact mul_le_mul_of_nonneg_right ha (by positivity)
  calc 2 * (a * unitsPerOne) ≤ 2 * 2 ^ 2045 := mul_le_mul_of_nonneg_left hle (by norm_num)
    _ < (2 ^ 54 - 1) * 2 ^ 2045 := mul_lt_mul_of_pos_right (by norm_num) hpos

/-! ## Whole numbers and powers of ten -/

/-- A natural number of reasonable size is rounded to a finite number. -/
lemma exists_ofNat (hn : n ≤ 2 ^ 100) :
    ∃ units, RoundsTo (n * unitsPerOne) units ∧ ofNat n = .finite false units := by
  obtain ⟨units, hunits⟩ := exists_roundsTo (q := n * unitsPerOne) (by positivity)
  refine ⟨units, hunits, round_eq_of_roundsTo Nat.one_pos ?_ (hunits.lt_overflow ?_)⟩
  · simpa using hunits
  · have hcast : (n : ℚ) ≤ 2 ^ 100 := by exact_mod_cast hn
    exact hcast.trans (pow_le_pow_right₀ (by norm_num) (by norm_num))

/-- A number of 53 bits, times a power of two, is not changed. -/
lemma roundsTo_mul_two_pow (hn : n ≤ 2 ^ 53) (k : ℕ) :
    RoundsTo ((n * 2 ^ k : ℕ) * unitsPerOne) (n * 2 ^ k * unitsPerOne) := by
  have hdvd : spacing (n * 2 ^ k * unitsPerOne) ∣ n * 2 ^ k * unitsPerOne := by
    rw [unitsPerOne_eq, mul_assoc, ← pow_add]
    exact spacing_dvd_mul hn _
  have hself := roundsTo_self hdvd
  rwa [Nat.cast_mul (n * 2 ^ k)] at hself

lemma roundsTo_natCast (hn : n ≤ 2 ^ 53) : RoundsTo (n * unitsPerOne) (n * unitsPerOne) := by
  simpa using roundsTo_mul_two_pow hn 0

lemma ofNat_eq (hn : n ≤ 2 ^ 53) : ofNat n = .finite false (n * unitsPerOne) := by
  obtain ⟨units, hunits, heq⟩ :=
    exists_ofNat (hn.trans (Nat.pow_le_pow_right (by decide) (by decide)))
  rw [heq, hunits.unique (roundsTo_natCast hn)]

/-- The powers of ten up to 10 ^ 22 are numbers of the format. -/
lemma roundsTo_ten_pow (hk : k ≤ 22) : RoundsTo (10 ^ k * unitsPerOne) (10 ^ k * unitsPerOne) := by
  have hfive : 5 ^ k ≤ 2 ^ 53 := (Nat.pow_le_pow_right (by decide) hk).trans (by norm_num)
  have hten : 5 ^ k * 2 ^ k = 10 ^ k := (Nat.mul_pow 5 2 k).symm
  have hrounds := roundsTo_mul_two_pow hfive k
  rw [hten, Nat.cast_pow, Nat.cast_ofNat] at hrounds
  exact hrounds

end TimingBoard.Binary64
