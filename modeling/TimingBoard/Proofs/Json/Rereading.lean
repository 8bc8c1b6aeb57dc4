import TimingBoard.Proofs.Json.Fractional
import TimingBoard.Proofs.Json.Scaling

/-!
# Numbers that are written and read back

A number is written with its shortest decimal, which is rounded to the number.  But a literal is not
read as the nearest number: its digits are rounded first, and below one the power of ten may be too.
So what is read back is off by a few roundings, unless the digits have at most 53 bits.  Then the
number itself is read back.
-/

namespace TimingBoard.Json

open Binary64

variable {units m v : ℕ} {k : ℤ} {n : Numeral}

-- The number of units in one is too large to be looked at.
attribute [local irreducible] unitsPerOne

/-! ## The shortest decimal -/

/-- The shortest decimal is one rounding away from its number. -/
lemma within_shortest (hdvd : spacing units ∣ units) (hlow : 1 / 2 ^ 40 ≤ magnitude units) :
    Within 1 (magnitude units) (shortest .even units).value := by
  have hone := unitsPerOne_pos'
  have hmany : 2 ^ 52 ≤ units := by
    have hcast := le_mul_unitsPerOne (le_trans (by norm_num) hlow)
    rw [magnitude_mul] at hcast
    exact_mod_cast hcast
  have h0 : units ≠ 0 := by omega
  have herror := abs_sub_le_of_includes h0 hdvd (shortest_spec h0 hdvd .even).1
  have hspacing : (2 ^ 52 * spacing units : ℚ) ≤ units := by exact_mod_cast spacing_mul_le hmany
  refine within_one_of_abs_sub_le (le_of_mul_le_mul_right ?_ hone)
  rw [← abs_of_pos hone, ← abs_mul, abs_of_pos hone, sub_mul, mul_right_comm, magnitude_mul,
    unitRoundoff]
  refine herror.trans ?_
  linarith

/-- The exponent of the first digit, by the powers of ten around a number. -/
lemma le_firstExponent (h0 : units ≠ 0) (h : 10 ^ k ≤ magnitude units) :
    k ≤ firstExponent units := by
  have hone := unitsPerOne_pos'
  have hhigh := (firstExponent_bounds h0).2
  rw [← magnitude_mul units, mul_lt_mul_iff_left₀ hone] at hhigh
  have hlt := h.trans_lt hhigh
  rw [zpow_lt_zpow_iff_right₀ (by norm_num)] at hlt
  omega

/-- The size of a shortest decimal. -/
structure IsDecimalOf (units : ℕ) (n : Numeral) : Prop where
  within : Within 1 (magnitude units) n.value
  coefficient_pos : 0 < n.coefficient
  coefficient_le : n.coefficient ≤ 2 * 10 ^ 17
  exponent_le : n.exponent ≤ 19
  le_exponent : -29 ≤ n.exponent
  le_exponent_of_one_le : 1 ≤ magnitude units → -16 ≤ n.exponent

lemma isDecimalOf_shortest (hdvd : spacing units ∣ units) (hlow : 1 / 2 ^ 40 ≤ magnitude units)
    (hhigh : magnitude units ≤ 2 ^ 65) : IsDecimalOf units (shortest .even units) := by
  have hone := unitsPerOne_pos'
  have hpos : 0 < magnitude units := lt_of_lt_of_le (by norm_num) hlow
  have h0 : units ≠ 0 := by
    rintro rfl
    simp [magnitude] at hpos
  have hwithin := within_shortest hdvd hlow
  have hgrid := le_exponent_shortest h0 hdvd .even
  have hsize : (shortest .even units).value ≤ 2 * magnitude units := by
    refine hwithin.high.trans ?_
    norm_num [unitRoundoff]
    linarith
  have hfirst := (firstExponent_bounds h0).2
  rw [← magnitude_mul units, mul_lt_mul_iff_left₀ hone] at hfirst
  have hvalue := hwithin.pos hpos
  generalize shortest .even units = n at *
  have hpower : (0 : ℚ) < 10 ^ n.exponent := by positivity
  have hcoefficient : 0 < n.coefficient := by
    refine Nat.pos_of_ne_zero fun hzero => ?_
    simp [Numeral.value, hzero] at hvalue
  refine ⟨hwithin, hcoefficient, ?_, ?_, ?_, ?_⟩
  · have hcount : (n.coefficient : ℚ) ≤ 2 * 10 ^ 17 := by
      refine le_of_mul_le_mul_right ?_ hpower
      calc n.coefficient * 10 ^ n.exponent ≤ 2 * magnitude units := hsize
        _ ≤ 2 * 10 ^ (firstExponent units + 1) := by linarith
        _ ≤ 2 * 10 ^ (17 + n.exponent) := by
          refine mul_le_mul_of_nonneg_left (zpow_le_zpow_right₀ (by norm_num) ?_) (by norm_num)
          omega
        _ = 2 * 10 ^ 17 * 10 ^ n.exponent := by
          rw [zpow_add₀ (by norm_num), ← mul_assoc]
          norm_num
    exact_mod_cast hcount
  · have hlt : (10 : ℚ) ^ n.exponent < 10 ^ (20 : ℤ) := by
      have hcount : (1 : ℚ) ≤ n.coefficient := by exact_mod_cast hcoefficient
      calc (10 : ℚ) ^ n.exponent ≤ n.coefficient * 10 ^ n.exponent :=
        le_mul_of_one_le_left hpower.le hcount
        _ ≤ 2 * magnitude units := hsize
        _ ≤ 2 * 2 ^ 65 := by linarith
        _ < 10 ^ (20 : ℤ) := by norm_num
    rw [zpow_lt_zpow_iff_right₀ (by norm_num)] at hlt
    omega
  · have hleast := le_firstExponent (k := -13) h0 (le_trans (by norm_num) hlow)
    omega
  · intro hlarge
    have hleast := le_firstExponent (k := 0) h0 (by simpa using hlarge)
    omega

/-! ## Literals -/

/-- What the literal of a number says: digits that fit 64 bits, and a power of ten. -/
structure IsLiteralOf (n : Numeral) (m : ℕ) (k : ℤ) : Prop where
  spells : Spells n.literal m k
  value_eq : (m * 10 ^ k : ℚ) = n.value
  exponent : k = n.exponent ∨ k = -1 ∧ 0 ≤ n.exponent
  lt_size : m < UInt64.size

lemma exists_isLiteralOf (h : IsDecimalOf units n) : ∃ m k, IsLiteralOf n m k := by
  rcases n.spells_literal fun hzero => absurd hzero h.coefficient_pos.ne' with hspells |
    ⟨hpos, hlt, hspells⟩
  · exact ⟨_, _, hspells, rfl, .inl rfl, h.coefficient_le.trans_lt (by decide)⟩
  · obtain ⟨e, he⟩ := Int.eq_ofNat_of_zero_le hpos
    have hvalue : (n.coefficient * 10 ^ (n.exponent.toNat + 1) : ℕ) * 10 ^ (-1 : ℤ) = n.value := by
      rw [Numeral.value, he, Int.toNat_natCast, zpow_natCast]
      push_cast
      ring
    refine ⟨_, -1, hspells, hvalue, .inr ⟨rfl, hpos⟩, ?_⟩
    have hcast : ((n.coefficient * 10 ^ (n.exponent.toNat + 1) : ℕ) : ℚ) < 10 ^ 17 := by
      rw [← hvalue] at hlt
      norm_num at hlt ⊢
      linarith
    have hnat : n.coefficient * 10 ^ (n.exponent.toNat + 1) < 10 ^ 17 := by exact_mod_cast hcast
    exact hnat.trans (by decide)

/-! ## Reading back -/

/-- What comes of a number that is written and read back, and the exact value it is the rounding
of. -/
structure Rereads (units : ℕ) (q : ℚ) (v : ℕ) : Prop where
  isNumber : IsNumber (shortest .even units).literal
  read : binary64? (.number (shortest .even units).literal) = some (.finite false v)
  rounds : RoundsTo (q * unitsPerOne) v
  within : Within 3 (shortest .even units).value q
  within_of_one_le : 1 ≤ magnitude units → Within 1 (shortest .even units).value q
  exact : -9 ≤ (shortest .even units).exponent → (shortest .even units).value * 10 ^ 9 ≤ 2 ^ 53 →
    q = (shortest .even units).value

/-- The digits of a literal have at most 53 bits if it has at most nine places and they are not too
many. -/
lemma IsLiteralOf.le_of_places (h : IsLiteralOf n m k) (he : -9 ≤ n.exponent)
    (hsize : n.value * 10 ^ 9 ≤ 2 ^ 53) : m ≤ 2 ^ 53 := by
  have hk : -9 ≤ k := by
    rcases h.exponent with rfl | ⟨rfl, -⟩ <;> omega
  have hcast : (m : ℚ) ≤ 2 ^ 53 := by
    calc (m : ℚ) = m * 10 ^ (-9 : ℤ) * 10 ^ 9 := by
          rw [mul_assoc]
          norm_num
      _ ≤ m * 10 ^ k * 10 ^ 9 := by
        have hpower : (10 : ℚ) ^ (-9 : ℤ) ≤ 10 ^ k := zpow_le_zpow_right₀ (by norm_num) hk
        gcongr
      _ = n.value * 10 ^ 9 := by rw [h.value_eq]
      _ ≤ 2 ^ 53 := hsize
  exact_mod_cast hcast

lemma IsLiteralOf.one_le (h : IsLiteralOf n m k) (hvalue : 0 < n.value) : (1 : ℚ) ≤ m := by
  have hpos : (0 : ℚ) < m := by
    rw [← h.value_eq] at hvalue
    exact pos_of_mul_pos_left hvalue (by positivity)
  exact_mod_cast hpos

/-- With a power of ten that is a number of the format only the digits are rounded first. -/
lemma exists_rereads_of_natAbs_le (hvalue : 0 < (shortest .even units).value)
    (hliteral : IsLiteralOf (shortest .even units) m k) (hsmall : k.natAbs ≤ 22) :
    ∃ q v, Rereads units q v := by
  have hone := unitsPerOne_pos'
  have hdigits := hliteral.one_le hvalue
  have hpower : (0 : ℚ) < 10 ^ k := by positivity
  obtain ⟨b, v, hb, hv, hscale⟩ := scale?_of_natAbs_le hliteral.lt_size.le hsmall
  have hscaled : magnitude b * 10 ^ k * unitsPerOne = b * 10 ^ k := by
    rw [mul_right_comm, magnitude_mul]
  have hwithin : Within 1 (shortest .even units).value (magnitude b * 10 ^ k) := by
    rw [← hliteral.value_eq]
    exact (within_of_roundsTo hb (le_trans (by norm_num) hdigits)).mul_right hpower.le
  refine ⟨magnitude b * 10 ^ k, v, hliteral.spells.isNumber,
    (hliteral.spells.binary64 hliteral.lt_size).trans hscale, by rwa [hscaled],
    hwithin.mono hvalue.le (by norm_num), fun _ => hwithin, fun he hsize => ?_⟩
  rw [hb.unique (roundsTo_natCast (hliteral.le_of_places he hsize)), ← hliteral.value_eq, magnitude,
    Nat.cast_mul, mul_div_cancel_right₀ _ hone.ne']

/-- Below one the power of ten may need a rounding of its own. -/
lemma exists_rereads_of_lt (hdecimal : IsDecimalOf units (shortest .even units))
    (hvalue : 0 < (shortest .even units).value)
    (hliteral : IsLiteralOf (shortest .even units) m k) (hlarge : 22 < k.natAbs) :
    ∃ q v, Rereads units q v := by
  have hdigits := hliteral.one_le hvalue
  have hexponent : k = (shortest .even units).exponent := by
    rcases hliteral.exponent with heq | ⟨rfl, -⟩
    · exact heq
    · norm_num at hlarge
  have hleast := hdecimal.le_exponent
  have hmost := hdecimal.exponent_le
  obtain ⟨j, rfl⟩ : ∃ j : ℕ, k = -j := ⟨k.natAbs, by omega⟩
  obtain ⟨b, p, v, hb, hp, hv, hscale⟩ :=
    scale?_neg_natCast hliteral.lt_size.le (k := j) (by omega) (by omega)
  have hten : (1 : ℚ) ≤ 10 ^ j := one_le_pow₀ (by norm_num)
  refine ⟨magnitude b / magnitude p, v, hliteral.spells.isNumber,
    (hliteral.spells.binary64 hliteral.lt_size).trans hscale, hv, ?_, ?_, ?_⟩
  · have hpower : (0 : ℚ) ≤ 10 ^ (-j : ℤ) := by positivity
    have hnumerator := (within_of_roundsTo hb (le_trans (by norm_num) hdigits)).mul_right hpower
    have hdenominator := (within_of_roundsTo hp (le_trans (by norm_num) hten)).div_left
      (by positivity) (magnitude_nonneg b)
    rw [hliteral.value_eq, zpow_neg, zpow_natCast, ← div_eq_mul_inv] at hnumerator
    exact hnumerator.trans hdenominator
  · intro hone
    have hleast := hdecimal.le_exponent_of_one_le hone
    omega
  · intro he
    omega

/-- **Writing and reading back.**  A number of ordinary size is read back from its literal, after
three roundings of its shortest decimal and the last one at most.  From one on the shortest decimal
is rounded only once before the last rounding, and not at all if it has few digits. -/
theorem exists_rereads (hdvd : spacing units ∣ units) (hlow : 1 / 2 ^ 40 ≤ magnitude units)
    (hhigh : magnitude units ≤ 2 ^ 65) : ∃ q v, Rereads units q v := by
  have hdecimal := isDecimalOf_shortest hdvd hlow hhigh
  have hvalue := hdecimal.within.pos (lt_of_lt_of_le (by norm_num) hlow)
  obtain ⟨m, k, hliteral⟩ := exists_isLiteralOf hdecimal
  rcases le_or_gt k.natAbs 22 with hsmall | hlarge
  · exact exists_rereads_of_natAbs_le hvalue hliteral hsmall
  · exact exists_rereads_of_lt hdecimal hvalue hliteral hlarge

end TimingBoard.Json
