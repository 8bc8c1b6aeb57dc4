import TimingBoard.Json.Number
import TimingBoard.Proofs.Number.Accuracy

/-!
# Reading numbers of JSON

The digits of a literal and the power of ten are each rounded on their own, and their product or
quotient once more.  So a literal is not always read as the number nearest to it, but the error is
that of four roundings at most.  There is only one rounding, and the nearest number is read, if the
digits have at most 53 bits and the exponent is at most 22.
-/

namespace TimingBoard.Json

open Binary64

variable {k m b v : ℕ} {e : ℤ}

-- The number of units in one is too large to be looked at.
attribute [local irreducible] unitsPerOne

/-! ## Powers of ten -/

/-- A power of ten is rounded to a finite number. -/
lemma exists_powerOfTen (hk : k ≤ 200) :
    ∃ p, RoundsTo (10 ^ k * unitsPerOne) p ∧ powerOfTen k = .finite false p := by
  obtain ⟨p, hp⟩ := exists_roundsTo (q := 10 ^ k * unitsPerOne) (by positivity)
  refine ⟨p, hp, ?_⟩
  have hplaces : ((Nat.toDigits 10 1).length : ℤ) + k = k + 1 := by
    rw [show (Nat.toDigits 10 1).length = 1 from rfl]
    omega
  unfold powerOfTen ofDecimal
  simp only [hplaces]
  rw [if_neg (by omega), if_neg (by omega), if_pos (by omega), Int.toNat_natCast, Nat.pow_eq,
    one_mul]
  refine round_eq_of_roundsTo Nat.one_pos (by simpa using hp) (hp.lt_overflow ?_)
  calc (10 : ℚ) ^ k ≤ 10 ^ 200 := pow_le_pow_right₀ (by norm_num) hk
    _ ≤ (2 ^ 4) ^ 200 := pow_le_pow_left₀ (by norm_num) (by norm_num) _
    _ = 2 ^ 800 := (pow_mul 2 4 200).symm
    _ ≤ 2 ^ 900 := pow_le_pow_right₀ (by norm_num) (by norm_num)

lemma powerOfTen_eq (hk : k ≤ 22) : powerOfTen k = .finite false (10 ^ k * unitsPerOne) := by
  obtain ⟨p, hp, heq⟩ := exists_powerOfTen (hk.trans (by norm_num))
  rw [heq, hp.unique (roundsTo_ten_pow hk)]

/-! ## Products and quotients -/

/-- A literal with a power of ten that is a number of the format. -/
lemma scale?_natCast (hm : m ≤ 2 ^ 64) (hk : k ≤ 22) : ∃ b v, RoundsTo (m * unitsPerOne) b ∧
    RoundsTo (b * 10 ^ k) v ∧ scale? (.ofNat m) k = some (.finite false v) := by
  have hone := unitsPerOne_pos'
  obtain ⟨b, hb, hdigits⟩ := exists_ofNat (hm.trans (Nat.pow_le_pow_right (by decide) (by decide)))
  obtain ⟨v, hv⟩ := exists_roundsTo (q := b * 10 ^ k) (by positivity)
  refine ⟨b, v, hb, hv, ?_⟩
  have hquotient : ((b * (10 ^ k * unitsPerOne) : ℕ) : ℚ) / (unitsPerOne : ℕ) = b * 10 ^ k := by
    rw [div_eq_iff hone.ne']
    push_cast
    ring
  have hlt : v < overflow := by
    have hscaled : (b * 10 ^ k : ℚ) = magnitude b * 10 ^ k * unitsPerOne := by
      rw [← magnitude_mul b]
      ring
    rw [hscaled] at hv
    refine hv.lt_overflow ?_
    have hcast : (m : ℚ) ≤ 2 ^ 64 := by exact_mod_cast hm
    have hsize : magnitude b ≤ 2 * 2 ^ 64 := hb.magnitude_le.trans (by linarith)
    calc magnitude b * 10 ^ k ≤ 2 * 2 ^ 64 * 10 ^ 22 :=
          mul_le_mul hsize (pow_le_pow_right₀ (by norm_num) hk) (by positivity) (by norm_num)
      _ ≤ 2 ^ 200 := by norm_num
      _ ≤ 2 ^ 900 := pow_le_pow_right₀ (by norm_num) (by norm_num)
  have hround : (Binary64.finite false b).mul (.finite false (10 ^ k * unitsPerOne)) =
      .finite false v := by
    simp only [Binary64.mul]
    exact round_eq_of_roundsTo unitsPerOne_pos (by rwa [hquotient]) hlt
  have hfinite : (Binary64.finite false v).isFinite = true := rfl
  unfold scale?
  rw [if_neg (by omega), if_pos (by omega), Int.toNat_natCast, hdigits, powerOfTen_eq hk, hround]
  exact if_pos hfinite

/-- A literal with a negative exponent. -/
lemma scale?_neg_natCast (hm : m ≤ 2 ^ 64) (h0 : 0 < k) (hk : k ≤ 200) : ∃ b p v,
    RoundsTo (m * unitsPerOne) b ∧ RoundsTo (10 ^ k * unitsPerOne) p ∧
      RoundsTo (magnitude b / magnitude p * unitsPerOne) v ∧
        scale? (.ofNat m) (-k) = some (.finite false v) := by
  have hone := unitsPerOne_pos'
  obtain ⟨b, hb, hdigits⟩ := exists_ofNat (hm.trans (Nat.pow_le_pow_right (by decide) (by decide)))
  obtain ⟨p, hp, hpower⟩ := exists_powerOfTen hk
  obtain ⟨v, hv⟩ := exists_roundsTo (q := magnitude b / magnitude p * unitsPerOne)
    (mul_nonneg (div_nonneg (magnitude_nonneg b) (magnitude_nonneg p)) hone.le)
  refine ⟨b, p, v, hb, hp, hv, ?_⟩
  have hten : (1 : ℚ) ≤ 10 ^ k := one_le_pow₀ (by norm_num)
  have hhalf : 1 / 2 ≤ magnitude p := by
    have hwithin := within_of_roundsTo hp (le_trans (by norm_num) hten)
    refine le_trans ?_ hwithin.low
    norm_num [unitRoundoff]
    linarith
  have hp0 : p ≠ 0 := by
    rintro rfl
    norm_num [magnitude] at hhalf
  have hpos : (0 : ℚ) < p := by exact_mod_cast Nat.pos_of_ne_zero hp0
  have hquotient : ((b * unitsPerOne : ℕ) : ℚ) / p = magnitude b / magnitude p * unitsPerOne := by
    unfold magnitude
    push_cast
    field_simp
  have hlt : v < overflow := by
    refine hv.lt_overflow ?_
    have hcast : (m : ℚ) ≤ 2 ^ 64 := by exact_mod_cast hm
    have hsize : magnitude b ≤ 2 * 2 ^ 64 := hb.magnitude_le.trans (by linarith)
    calc magnitude b / magnitude p ≤ 2 * 2 ^ 64 / (1 / 2) :=
          div_le_div₀ (by norm_num) hsize (by norm_num) hhalf
      _ ≤ 2 ^ 200 := by norm_num
      _ ≤ 2 ^ 900 := pow_le_pow_right₀ (by norm_num) (by norm_num)
  have hround : (Binary64.finite false b).div (.finite false p) = .finite false v := by
    simp only [Binary64.div, if_neg hp0]
    exact round_eq_of_roundsTo (Nat.pos_of_ne_zero hp0) (by rwa [hquotient]) hlt
  unfold scale?
  rw [if_neg (by omega), if_neg (by omega), if_pos (by omega), neg_neg, Int.toNat_natCast, hdigits,
    hpower, hround]

/-- A literal with a small exponent is rounded twice: its digits are, and the exact result for what
they are rounded to. -/
lemma scale?_of_natAbs_le (hm : m ≤ 2 ^ 64) (he : e.natAbs ≤ 22) : ∃ b v,
    RoundsTo (m * unitsPerOne) b ∧ RoundsTo (b * 10 ^ e) v ∧
      scale? (.ofNat m) e = some (.finite false v) := by
  rcases le_or_gt 0 e with hpos | hneg
  · obtain ⟨k, rfl⟩ := Int.eq_ofNat_of_zero_le hpos
    simpa using scale?_natCast hm (k := k) (by omega)
  · obtain ⟨k, rfl⟩ : ∃ k : ℕ, e = -k := ⟨e.natAbs, by omega⟩
    obtain ⟨b, p, v, hb, hp, hv, hscale⟩ := scale?_neg_natCast hm (k := k) (by omega) (by omega)
    obtain rfl := hp.unique (roundsTo_ten_pow (by omega))
    refine ⟨b, v, hb, ?_, hscale⟩
    have hone := unitsPerOne_pos'
    have hquotient : magnitude b / magnitude (10 ^ k * unitsPerOne) * unitsPerOne =
        b * 10 ^ (-k : ℤ) := by
      unfold magnitude
      rw [zpow_neg, zpow_natCast]
      push_cast
      field_simp
    rwa [hquotient] at hv

end TimingBoard.Json
