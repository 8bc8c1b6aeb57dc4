import Mathlib.Algebra.Order.Ring.Nat
import Mathlib.Tactic.Lemma
import Mathlib.Tactic.Linarith
import Mathlib.Tactic.Ring
import TimingBoard.Number.Binary64

/-!
# Which magnitudes are rounded to a finite number

The greatest binary64 number is 2 ^ 1024 - 2 ^ 971, and what is less than half a spacing above it is
rounded down to it.  From 2 ^ 1024 - 2 ^ 970 on, a magnitude is rounded to 2 ^ 1024, which is not
finite: the point half way is rounded up, because the coefficient of the greatest number is odd.

A decimal number is finite under the same condition, although the powers of ten in it are not always
computed.
-/

namespace TimingBoard.Binary64

variable {num den units e : Nat} {negative : Bool}

/-! ## Quotients -/

/-- A quotient is rounded down or up. -/
lemma nearestQuotient_bounds (num den : Nat) :
    num / den ≤ nearestQuotient num den ∧ nearestQuotient num den ≤ num / den + 1 := by
  unfold nearestQuotient
  simp only
  split <;> omega

/-- A quotient half way between an odd number and the even number above it is rounded up. -/
lemma nearestQuotient_lt_iff {m : Nat} (hden : 0 < den) (heven : m % 2 = 0) :
    nearestQuotient num den < m ↔ 2 * num < (2 * m - 1) * den := by
  obtain ⟨hlow, hhigh⟩ := nearestQuotient_bounds num den
  have hnum : den * (num / den) + num % den = num := Nat.div_add_mod num den
  have hrest : num % den < den := Nat.mod_lt num hden
  rcases lt_trichotomy (num / den + 1) m with hbelow | hnext | habove
  · refine iff_of_true (hhigh.trans_lt hbelow) ?_
    calc 2 * num < (2 * (num / den) + 2) * den := by linarith
      _ ≤ (2 * m - 1) * den := Nat.mul_le_mul_right den (by omega)
  · have hodd : ¬ num / den % 2 = 0 := by omega
    have htwice : (2 * m - 1) * den = 2 * (den * (num / den)) + den := by
      rw [← hnext, show 2 * (num / den + 1) - 1 = 2 * (num / den) + 1 by omega]
      ring
    unfold nearestQuotient
    simp only [hodd, and_false, or_false]
    split <;> omega
  · refine iff_of_false (by omega) (not_lt.2 ?_)
    calc (2 * m - 1) * den ≤ 2 * (num / den) * den := Nat.mul_le_mul_right den (by omega)
      _ ≤ 2 * num := by
        rw [mul_assoc]
        exact Nat.mul_le_mul_left 2 (Nat.div_mul_le_self num den)

/-! ## Spacings -/

lemma spacing_pos (units : Nat) : 0 < spacing units :=
  Nat.two_pow_pos _

/-- The spacing of a magnitude leaves it at most 53 significant bits. -/
lemma spacing_dvd (h : units < 2 ^ (e + 53)) : spacing units ∣ 2 ^ e := by
  refine Nat.pow_dvd_pow 2 ?_
  by_cases hzero : units = 0
  · simp [hzero]
  · have hlog := (Nat.log2_lt hzero).2 h
    omega

lemma spacing_le (h : units < 2 ^ (e + 53)) : spacing units ≤ 2 ^ e :=
  Nat.le_of_dvd (Nat.two_pow_pos e) (spacing_dvd h)

/-- The spacing of a magnitude leaves it no fewer than 53 significant bits if it has as many. -/
lemma le_spacing (h : 2 ^ (e + 52) ≤ units) : 2 ^ e ≤ spacing units := by
  have hzero : units ≠ 0 := ((Nat.two_pow_pos _).trans_le h).ne'
  have hlog := (Nat.le_log2 hzero).2 h
  exact Nat.pow_le_pow_right (by decide) (by omega)

/-- Between two powers of two the spacing is constant. -/
lemma spacing_eq (hlow : 2 ^ (e + 52) ≤ units) (hhigh : units < 2 ^ (e + 53)) :
    spacing units = 2 ^ e :=
  (spacing_le hhigh).antisymm (le_spacing hlow)

lemma lt_mul_spacing (units : Nat) : units < 2 ^ 53 * spacing units := by
  calc units < 2 ^ (units.log2 + 1) := Nat.lt_log2_self
    _ ≤ 2 ^ (53 + (units.log2 - 52)) := Nat.pow_le_pow_right (by decide) (by omega)
    _ = 2 ^ 53 * spacing units := by rw [pow_add, spacing, Nat.pow_eq]

lemma spacing_mul_le (h : 2 ^ 52 ≤ units) : 2 ^ 52 * spacing units ≤ units := by
  have hzero : units ≠ 0 := ((Nat.two_pow_pos _).trans_le h).ne'
  have hlog : 52 ≤ units.log2 := (Nat.le_log2 hzero).2 h
  calc 2 ^ 52 * spacing units = 2 ^ units.log2 := by
        rw [spacing, Nat.pow_eq, ← pow_add, Nat.add_sub_cancel' hlog]
    _ ≤ units := Nat.log2_self_le hzero

/-- A coefficient of 53 bits and a power of two make a whole number of spacings, and so does the
first coefficient that is too large. -/
lemma spacing_dvd_mul {coefficient : ℕ} (h : coefficient ≤ 2 ^ 53) (e : ℕ) :
    spacing (coefficient * 2 ^ e) ∣ coefficient * 2 ^ e := by
  have hpos : 0 < 2 ^ e := Nat.two_pow_pos e
  rcases h.lt_or_eq with hlt | rfl
  · refine (spacing_dvd ?_).trans (Nat.dvd_mul_left (2 ^ e) coefficient)
    calc coefficient * 2 ^ e < 2 ^ 53 * 2 ^ e := Nat.mul_lt_mul_of_pos_right hlt hpos
      _ = 2 ^ (e + 53) := by ring
  · rw [← pow_add]
    refine (spacing_dvd ?_).trans (Nat.pow_dvd_pow 2 (show e + 1 ≤ 53 + e by omega))
    exact Nat.pow_lt_pow_right (by decide) (by omega)

/-- Below a power of two the numbers of the format leave room for one more. -/
lemma add_two_pow_le (hdvd : spacing units ∣ units) (h : units < 2 ^ (e + 53)) :
    units + 2 ^ e ≤ 2 ^ (e + 53) := by
  have htop : 2 ^ e ∣ 2 ^ (e + 53) := Nat.pow_dvd_pow 2 (by omega)
  rcases lt_or_ge units (2 ^ (e + 52)) with hlow | hlow
  · have hhalf : 2 ^ (e + 53) = 2 ^ (e + 52) + 2 ^ (e + 52) := by ring
    have hstep : 2 ^ e ≤ 2 ^ (e + 52) := Nat.pow_le_pow_right (by decide) (by omega)
    omega
  · rw [spacing_eq hlow h] at hdvd
    exact Nat.le_of_lt_add_of_dvd (Nat.add_lt_add_right h _)
      (Nat.dvd_add hdvd (Nat.dvd_refl _)) htop

/-- A magnitude is rounded to 53 significant bits. -/
lemma nearestQuotient_spacing_le (num den : ℕ) :
    nearestQuotient num (den * spacing (num / den)) ≤ 2 ^ 53 := by
  refine (nearestQuotient_bounds _ _).2.trans ?_
  rw [← Nat.div_div_eq_div_mul]
  refine Nat.div_lt_of_lt_mul ?_
  rw [mul_comm]
  exact lt_mul_spacing _

/-! ## Finite numbers -/

/-- A magnitude is rounded to less than a power of two exactly if it is less than half a spacing
below it. -/
lemma nearestQuotient_mul_spacing_lt_iff (hden : 0 < den) (e : Nat) :
    nearestQuotient num (den * spacing (num / den)) * spacing (num / den) < 2 ^ (e + 53) ↔
      2 * num < (2 ^ 54 - 1) * 2 ^ e * den := by
  have hbelow : num < (num / den + 1) * den := Nat.lt_mul_of_div_lt (Nat.lt_succ_self _) hden
  have habove : num / den * den ≤ num := Nat.div_mul_le_self num den
  have hpos : 0 < 2 ^ e := Nat.two_pow_pos e
  have hhalf : 2 ^ (e + 52) = 2 ^ 52 * 2 ^ e := by ring
  have hwhole : 2 ^ (e + 53) = 2 ^ 53 * 2 ^ e := by ring
  obtain ⟨hdown, hup⟩ := nearestQuotient_bounds num (den * spacing (num / den))
  rw [← Nat.div_div_eq_div_mul] at hdown hup
  generalize num / den = q at *
  have hstep : 0 < spacing q := spacing_pos q
  rcases lt_or_ge q (2 ^ (e + 52)) with hlow | hlow
  · -- A binade further down: rounding up adds one spacing at most, and there is room for many.
    have hsmall : spacing q ≤ 2 ^ e := spacing_le (by omega)
    refine iff_of_true ?_ ?_
    · calc nearestQuotient num (den * spacing q) * spacing q
          ≤ (q / spacing q + 1) * spacing q := Nat.mul_le_mul_right _ hup
        _ = q / spacing q * spacing q + spacing q := Nat.succ_mul _ _
        _ ≤ q + spacing q := Nat.add_le_add_right (Nat.div_mul_le_self q _) _
        _ < 2 ^ (e + 53) := by omega
    · calc 2 * num < 2 * ((q + 1) * den) := Nat.mul_lt_mul_of_pos_left hbelow Nat.two_pos
        _ = 2 * (q + 1) * den := (Nat.mul_assoc ..).symm
        _ ≤ (2 ^ 54 - 1) * 2 ^ e * den := Nat.mul_le_mul_right den (by omega)
  rcases lt_or_ge q (2 ^ (e + 53)) with hhigh | hhigh
  · -- The last binade: the point half way is the threshold.
    have hlast : spacing q = 2 ^ e := spacing_eq hlow hhigh
    have heven : 2 ^ 53 % 2 = 0 := by norm_num
    have hmiddle : (2 * 2 ^ 53 - 1) * (den * 2 ^ e) = (2 ^ 54 - 1) * 2 ^ e * den := by
      have hcoefficient : 2 * 2 ^ 53 - 1 = 2 ^ 54 - 1 := by norm_num
      rw [hcoefficient]
      ring
    rw [hlast, hwhole, Nat.mul_lt_mul_right hpos,
      nearestQuotient_lt_iff (Nat.mul_pos hden hpos) heven, hmiddle]
  · -- A binade further up: rounding down leaves the first significant bit.
    have hmany : 2 ^ 52 ≤ q / spacing q := by
      refine (Nat.le_div_iff_mul_le hstep).2 (spacing_mul_le (le_trans ?_ hhigh))
      exact Nat.pow_le_pow_right (by decide) (by omega)
    have hlarge : 2 ^ (e + 1) ≤ spacing q := le_spacing hhigh
    refine iff_of_false (not_lt.2 ?_) (not_lt.2 ?_)
    · calc 2 ^ (e + 53) = 2 ^ 52 * 2 ^ (e + 1) := by ring
        _ ≤ nearestQuotient num (den * spacing q) * spacing q :=
          Nat.mul_le_mul (hmany.trans hdown) hlarge
    · calc (2 ^ 54 - 1) * 2 ^ e * den ≤ 2 * q * den := Nat.mul_le_mul_right den (by omega)
        _ = 2 * (q * den) := Nat.mul_assoc ..
        _ ≤ 2 * num := Nat.mul_le_mul_left 2 habove

/-- The least magnitude that is rounded to an infinite number, in units. It is half a spacing below
the first magnitude that is not finite. -/
def threshold : Nat := (2 ^ 54 - 1) * 2 ^ 2044

lemma overflow_eq : overflow = 2 ^ 2098 := by
  delta overflow
  generalize 2098 = n
  exact Nat.pow_eq

lemma unitsPerOne_eq : unitsPerOne = 2 ^ 1074 := by
  delta unitsPerOne
  generalize 1074 = n
  exact Nat.pow_eq

lemma unitsPerOne_pos : 0 < unitsPerOne := by
  rw [unitsPerOne_eq]
  positivity

lemma isFinite_round : (round negative num den).isFinite = true ↔
    nearestQuotient num (den * spacing (num / den)) * spacing (num / den) < overflow := by
  unfold round
  simp only
  split
  · next hlt => exact iff_of_true rfl hlt
  · next hlt => exact iff_of_false Bool.false_ne_true hlt

/-- A magnitude is rounded to a finite number exactly if it is below the threshold. -/
theorem isFinite_round_iff (hden : 0 < den) :
    (round negative num den).isFinite = true ↔ num < threshold * den := by
  have hhalf : 2 * num < (2 ^ 54 - 1) * 2 ^ 2045 * den ↔ num < threshold * den := by
    rw [threshold, show 2045 = 2044 + 1 from rfl]
    generalize 2044 = e
    have hdouble : (2 ^ 54 - 1) * 2 ^ (e + 1) * den = 2 * ((2 ^ 54 - 1) * 2 ^ e * den) := by ring
    rw [hdouble]
    exact Nat.mul_lt_mul_left Nat.two_pos
  rw [isFinite_round, overflow_eq, show 2098 = 2045 + 53 from rfl,
    nearestQuotient_mul_spacing_lt_iff hden, hhalf]

/-! ## Decimals -/

/-- The least number that is rounded to an infinite one. -/
def limit : Nat := 2 ^ 1024 - 2 ^ 970

lemma threshold_eq : threshold = limit * unitsPerOne := by
  have hlimit : limit = (2 ^ 54 - 1) * 2 ^ 970 := by
    rw [limit, Nat.sub_mul, ← pow_add, one_mul]
  rw [hlimit, unitsPerOne_eq, Nat.mul_assoc, ← pow_add, threshold]

lemma limit_pos : 0 < limit := by
  decide +kernel

lemma limit_le : limit ≤ 10 ^ 310 := by
  decide +kernel

/-- A number has as many digits as it needs. -/
lemma lt_pow_length_toDigits (n : Nat) : n < 10 ^ (Nat.toDigits 10 n).length :=
  (Nat.length_toDigits_le_iff (by decide) Nat.length_toDigits_pos).1 le_rfl

lemma pow_le_of_lt_length {n k : Nat} (h : k < (Nat.toDigits 10 n).length) (hzero : n ≠ 0) :
    10 ^ k ≤ n := by
  by_contra hlt
  rcases Nat.eq_zero_or_pos k with rfl | hpos
  · omega
  · have hle := (Nat.length_toDigits_le_iff (b := 10) (by decide) hpos).2 (not_le.1 hlt)
    omega

/-- A decimal number is rounded to a finite number exactly if it is below the limit. -/
theorem isFinite_ofDecimal_iff (n k : Nat) :
    (ofDecimal negative n (-(k : Int))).isFinite = true ↔ n < limit * 10 ^ k := by
  have hround : n * unitsPerOne < threshold * 10 ^ k ↔ n < limit * 10 ^ k := by
    rw [threshold_eq, mul_right_comm, Nat.mul_lt_mul_right unitsPerOne_pos]
  have hpow : 0 < 10 ^ k := Nat.pow_pos (by decide)
  unfold ofDecimal
  simp only
  split
  · next hsmall =>
    refine iff_of_true rfl ?_
    rcases hsmall with rfl | hplaces
    · exact Nat.mul_pos limit_pos hpow
    · calc n < 10 ^ (Nat.toDigits 10 n).length := lt_pow_length_toDigits n
        _ ≤ 10 ^ k := Nat.pow_le_pow_right (by decide) (by omega)
        _ ≤ limit * 10 ^ k := Nat.le_mul_of_pos_left _ limit_pos
  · next hsmall =>
    have hzero : n ≠ 0 := fun h => hsmall (.inl h)
    split
    · next hlarge =>
      refine iff_of_false Bool.false_ne_true (not_lt.2 ?_)
      calc limit * 10 ^ k ≤ 10 ^ 310 * 10 ^ k := Nat.mul_le_mul_right _ limit_le
        _ = 10 ^ (310 + k) := (pow_add ..).symm
        _ ≤ n := pow_le_of_lt_length (by omega) hzero
    · split
      · next hk =>
        obtain rfl : k = 0 := by omega
        simpa [isFinite_round_iff] using hround
      · have hplaces : (- -(k : Int)).toNat = k := by omega
        rw [hplaces, Nat.pow_eq, isFinite_round_iff hpow]
        exact hround

end TimingBoard.Binary64
