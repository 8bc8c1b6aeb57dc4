import TimingBoard.Proofs.Number.Accuracy
import TimingBoard.Proofs.Time.Seconds

/-!
# Spans and seconds

A span becomes a number of seconds with three roundings: one for the whole seconds, one for the
fraction and one for their sum.  Back from seconds there is one rounding, to the nearest nanosecond.
The whole seconds need no rounding below 2 ^ 53, and between 2 ^ 20 and 2 ^ 23 seconds the rounding
of the fraction makes no difference: the number is the one nearest to the span.
-/

namespace TimingBoard.Span

open Binary64

variable {s t : Span} {whole part units k : ℕ}

-- The number of units in one is too large to be looked at.
attribute [local irreducible] unitsPerOne

/-! ## From spans to seconds -/

/-- The length of a span in seconds. -/
def inSeconds (s : Span) : ℚ := s.nanos / 10 ^ 9

/-- The fraction of a second in a span. -/
def fractional (s : Span) : ℚ := s.subsecond / 10 ^ 9

lemma inSeconds_eq (s : Span) : s.inSeconds = s.seconds + s.fractional := by
  have hsplit : s.nanos = 10 ^ 9 * s.seconds + s.subsecond := (Nat.div_add_mod _ _).symm
  rw [inSeconds, fractional, hsplit]
  push_cast
  ring

lemma subsecond_lt (s : Span) : s.subsecond < 10 ^ 9 := Nat.mod_lt _ (by decide)

lemma seconds_lt (s : Span) : s.seconds < 2 ^ 64 :=
  Nat.div_lt_of_lt_mul (by rw [mul_comm]; exact s.lt_limit)

lemma fractional_nonneg (s : Span) : 0 ≤ s.fractional := by
  unfold fractional
  positivity

lemma fractional_le (s : Span) : s.fractional ≤ 1 - 1 / 10 ^ 9 := by
  have hle : (s.subsecond : ℚ) + 1 ≤ 10 ^ 9 := by exact_mod_cast s.subsecond_lt
  unfold fractional
  linarith

/-- The roundings on the way from a span to a number of seconds. -/
structure Converts (s : Span) (whole part units : ℕ) : Prop where
  seconds : RoundsTo (s.seconds * unitsPerOne) whole
  fraction : RoundsTo (s.fractional * unitsPerOne) part
  sum : RoundsTo ((magnitude whole + magnitude part) * unitsPerOne) units
  toBinary64 : s.toBinary64 = .finite false units

/-- The fraction is the quotient of two numbers that are not rounded. -/
lemma div_nanosPerSecond (h : RoundsTo (s.fractional * unitsPerOne) part) :
    (ofNat s.subsecond).div (ofNat nanosPerSecond) = .finite false part := by
  have hsubsecond : ofNat s.subsecond = .finite false (s.subsecond * unitsPerOne) :=
    ofNat_eq (s.subsecond_lt.le.trans (by norm_num))
  have hbillion : ofNat nanosPerSecond = .finite false (10 ^ 9 * unitsPerOne) :=
    ofNat_eq (by decide)
  have hden : 0 < 10 ^ 9 * unitsPerOne := Nat.mul_pos (by decide) unitsPerOne_pos
  have hquotient : ((s.subsecond * unitsPerOne * unitsPerOne : ℕ) : ℚ) /
      (10 ^ 9 * unitsPerOne : ℕ) =
      s.fractional * unitsPerOne := by
    rw [fractional, div_mul_eq_mul_div, div_eq_div_iff (by exact_mod_cast hden.ne') (by norm_num)]
    push_cast
    ring
  have hsmall := s.fractional_le
  rw [hsubsecond, hbillion]
  simp only [div, if_neg hden.ne']
  refine round_eq_of_roundsTo hden (by rwa [hquotient]) (h.lt_overflow ?_)
  exact le_trans (by linarith) (one_le_pow₀ (by norm_num))

theorem exists_converts (s : Span) : ∃ whole part units, s.Converts whole part units := by
  have hone := unitsPerOne_pos'
  obtain ⟨whole, hwhole, hseconds⟩ := exists_ofNat (n := s.seconds)
    (s.seconds_lt.le.trans (Nat.pow_le_pow_right (by decide) (by decide)))
  obtain ⟨part, hpart⟩ := exists_roundsTo (q := s.fractional * unitsPerOne)
    (mul_nonneg s.fractional_nonneg hone.le)
  obtain ⟨units, hunits⟩ := exists_roundsTo (q := (magnitude whole + magnitude part) * unitsPerOne)
    (mul_nonneg (add_nonneg (magnitude_nonneg _) (magnitude_nonneg _)) hone.le)
  refine ⟨whole, part, units, hwhole, hpart, hunits, ?_⟩
  have hsum : ((whole + part : ℕ) : ℚ) / (1 : ℕ) =
      (magnitude whole + magnitude part) * unitsPerOne := by
    rw [add_mul, magnitude_mul, magnitude_mul, Nat.cast_add, Nat.cast_one, div_one]
  have hcast : (s.seconds : ℚ) ≤ 2 ^ 64 := by exact_mod_cast s.seconds_lt.le
  have hsmall := s.fractional_le
  unfold toBinary64
  rw [hseconds, div_nanosPerSecond hpart]
  simp only [add, if_true]
  refine round_eq_of_roundsTo Nat.one_pos (by rwa [hsum]) (hunits.lt_overflow ?_)
  calc magnitude whole + magnitude part ≤ 2 * 2 ^ 64 + 2 := by
        linarith [hwhole.magnitude_le, hpart.magnitude_le]
    _ ≤ 2 ^ 66 := by norm_num
    _ ≤ 2 ^ 900 := pow_le_pow_right₀ (by norm_num) (by norm_num)

namespace Converts

/-- The number is the length of the span after two roundings. -/
lemma within (h : s.Converts whole part units) (h0 : s.nanos ≠ 0) :
    Within 2 s.inSeconds (magnitude units) := by
  have hone := unitsPerOne_pos'
  have hsmall {a : ℚ} {v : ℕ} (hv : RoundsTo (a * unitsPerOne) v) (ha : a = 0 ∨ 1 / 2 ^ 100 ≤ a) :
      Within 1 a (magnitude v) := by
    rcases ha with rfl | hle
    · have hzero := hv.magnitude_le
      have hnonneg := magnitude_nonneg v
      constructor <;> linarith
    · exact within_of_roundsTo hv hle
  have hwhole : Within 1 (s.seconds : ℚ) (magnitude whole) := by
    refine hsmall h.seconds ?_
    rcases Nat.eq_zero_or_pos s.seconds with hzero | hpos
    · exact .inl (by rw [hzero, Nat.cast_zero])
    · have hcast : (1 : ℚ) ≤ s.seconds := by exact_mod_cast hpos
      exact .inr (le_trans (by norm_num) hcast)
  have hpart : Within 1 s.fractional (magnitude part) := by
    refine hsmall h.fraction ?_
    rcases Nat.eq_zero_or_pos s.subsecond with hzero | hpos
    · exact .inl (by rw [fractional, hzero, Nat.cast_zero, zero_div])
    · have hcast : (1 : ℚ) ≤ s.subsecond := by exact_mod_cast hpos
      refine .inr ?_
      rw [fractional, le_div_iff₀ (by norm_num)]
      exact le_trans (by norm_num) hcast
  have hsum := hwhole.add hpart
  rw [← inSeconds_eq] at hsum
  have hlength : 1 / 10 ^ 9 ≤ s.inSeconds := by
    have hcast : (1 : ℚ) ≤ s.nanos := by exact_mod_cast Nat.pos_of_ne_zero h0
    exact div_le_div_of_nonneg_right hcast (by norm_num)
  refine hsum.trans (within_of_roundsTo h.sum ?_)
  refine le_trans ?_ hsum.low
  norm_num [unitRoundoff]
  linarith

/-- Whole seconds up to 2 ^ 53 are not rounded. -/
lemma magnitude_whole (h : s.Converts whole part units) (hseconds : s.seconds ≤ 2 ^ 53) :
    magnitude whole = s.seconds := by
  rw [h.seconds.unique (roundsTo_natCast hseconds), magnitude, Nat.cast_mul,
    mul_div_cancel_right₀ _ unitsPerOne_pos'.ne']

/-- The fraction is off by little. -/
lemma abs_sub_part_le (h : s.Converts whole part units) :
    |s.fractional - magnitude part| ≤ 1 / 2 ^ 54 := by
  have hlt : s.fractional < 2 ^ 0 := lt_of_le_of_lt s.fractional_le (by norm_num)
  simpa using h.fraction.abs_sub_magnitude_le hlt

lemma part_lt_one (h : s.Converts whole part units) : magnitude part < 1 := by
  have herror := abs_le.1 h.abs_sub_part_le
  have hfraction := s.fractional_le
  linarith

end Converts

/-! ## From seconds to spans -/

lemma nanos_quotient (units : ℕ) :
    ((units * nanosPerSecond : ℕ) : ℚ) / unitsPerOne = magnitude units * 10 ^ 9 := by
  rw [magnitude, show nanosPerSecond = 10 ^ 9 from rfl]
  push_cast
  ring

/-- A span is read from the seconds that it is nearest to. -/
lemma ofBinary64_finite_iff : ofBinary64 (.finite false units) = .ok t ↔
    IsNearest (magnitude units * 10 ^ 9) t.nanos := by
  rw [ofBinary64_eq_ok_iff, ← nanos_quotient, ← nearestQuotient_eq_iff unitsPerOne_pos]
  constructor
  · rintro ⟨_, _, heq, -, hnanos⟩
    obtain ⟨-, rfl⟩ := Binary64.finite.inj heq
    exact hnanos.symm
  · intro hnanos
    exact ⟨false, units, rfl, fun hfalse => absurd hfalse Bool.false_ne_true, hnanos.symm⟩

/-- There is a span for a number of seconds exactly if it is less than 2 ^ 64. -/
lemma exists_ofBinary64_iff (hdvd : spacing units ∣ units) :
    (∃ t, ofBinary64 (.finite false units) = .ok t) ↔ magnitude units < 2 ^ 64 := by
  constructor
  · rintro ⟨t, ht⟩
    have hnear := abs_le.1 (ofBinary64_finite_iff.1 ht).abs_sub_le
    have hlt : t.nanos < 2 ^ 64 * 10 ^ 9 := t.lt_limit
    have hlt : (t.nanos : ℚ) + 1 ≤ 2 ^ 64 * 10 ^ 9 := by exact_mod_cast hlt
    linarith
  · intro hlt
    have hroom := magnitude_add_le hdvd hlt
    have hnearest := isNearest_nearestQuotient (units * nanosPerSecond) unitsPerOne_pos
    rw [nanos_quotient] at hnearest
    have hnear := abs_le.1 hnearest.abs_sub_le
    have hbelow : (nearestQuotient (units * nanosPerSecond) unitsPerOne : ℚ) < 2 ^ 64 * 10 ^ 9 := by
      linarith
    have hbelow : nearestQuotient (units * nanosPerSecond) unitsPerOne < 2 ^ 64 * 10 ^ 9 := by
      exact_mod_cast hbelow
    exact ⟨⟨_, hbelow⟩, ofBinary64_finite_iff.2 hnearest⟩

/-! ## The number nearest to a span -/

/-- A fraction with an odd denominator is never half way, so that a small change does not matter. -/
lemma isNearest_of_abs_sub_lt {p q : ℚ} {a n : ℕ} (h : IsNearest p n) (hq : q = a / 5 ^ 9)
    (hclose : |p - q| < 1 / (2 * 5 ^ 9)) : IsNearest q n := by
  have hdist : |q - n| < 1 / 2 + 1 / (2 * 5 ^ 9) := by
    calc |q - n| = |(p - n) - (p - q)| := by congr 1; ring
      _ ≤ |p - n| + |p - q| := abs_sub _ _
      _ < 1 / 2 + 1 / (2 * 5 ^ 9) := by linarith [h.abs_sub_le]
  obtain ⟨z, hz⟩ : ∃ z : ℤ, q - n = z / 5 ^ 9 := by
    refine ⟨a - 5 ^ 9 * n, ?_⟩
    rw [hq]
    push_cast
    ring
  rw [hz, abs_div, abs_of_pos (show (0 : ℚ) < 5 ^ 9 by norm_num),
    div_lt_iff₀ (by norm_num)] at hdist
  have hcount : 2 * |z| < 5 ^ 9 + 1 := by
    have hcast : 2 * |(z : ℚ)| < 5 ^ 9 + 1 := by linarith
    exact_mod_cast hcast
  have hodd : 2 * |z| < 5 ^ 9 := by omega
  have hcast : 2 * |(z : ℚ)| < 5 ^ 9 := by exact_mod_cast hodd
  refine .inl ?_
  rw [hz, abs_div, abs_of_pos (show (0 : ℚ) < 5 ^ 9 by norm_num), div_lt_iff₀ (by norm_num)]
  linarith

lemma exists_two_pow_le_seconds (hlow : 2 ^ 20 ≤ s.seconds) (hhigh : s.seconds < 2 ^ 23) :
    ∃ k, 20 ≤ k ∧ k ≤ 22 ∧ (2 : ℚ) ^ k ≤ s.seconds ∧ (s.seconds : ℚ) + 1 ≤ 2 ^ (k + 1) := by
  have h0 : s.seconds ≠ 0 := by omega
  have hbelow : 2 ^ s.seconds.log2 ≤ s.seconds := Nat.log2_self_le h0
  have habove : s.seconds + 1 ≤ 2 ^ (s.seconds.log2 + 1) := Nat.lt_log2_self
  have hlog := (Nat.log2_lt h0).2 hhigh
  exact ⟨s.seconds.log2, (Nat.le_log2 h0).2 hlow, by omega, by exact_mod_cast hbelow,
    by exact_mod_cast habove⟩

/-- On the grid of a span between these limits the rounding of the fraction is too small to
matter. -/
lemma isNearest_inSeconds {n : ℕ} {part : ℚ} (hk20 : 20 ≤ k) (hk22 : k ≤ 22)
    (hpart : |s.fractional - part| ≤ 1 / 2 ^ 54)
    (hn : IsNearest ((s.seconds + part) * 2 ^ 52 / 2 ^ k) n) :
    IsNearest (s.inSeconds * 2 ^ 52 / 2 ^ k) n := by
  refine isNearest_of_abs_sub_lt hn (a := s.nanos * 2 ^ (43 - k)) ?_ ?_
  · rw [inSeconds]
    interval_cases k <;> push_cast <;> ring
  · have hdiff : (s.seconds + part) * 2 ^ 52 / 2 ^ k - s.inSeconds * 2 ^ 52 / 2 ^ k =
        (part - s.fractional) * 2 ^ 52 / 2 ^ k := by
      rw [inSeconds_eq]
      ring
    have hpower : (2 : ℚ) ^ 20 ≤ 2 ^ k := pow_le_pow_right₀ (by norm_num) hk20
    rw [hdiff, abs_div, abs_mul, abs_sub_comm, abs_of_pos (show (0 : ℚ) < 2 ^ 52 by norm_num),
      abs_of_pos (show (0 : ℚ) < 2 ^ k by positivity)]
    calc |s.fractional - part| * 2 ^ 52 / 2 ^ k ≤ 1 / 2 ^ 54 * 2 ^ 52 / 2 ^ 20 := by gcongr
      _ < 1 / (2 * 5 ^ 9) := by norm_num

/-- Between 2 ^ 20 and 2 ^ 23 seconds a span becomes the number nearest to it. -/
theorem Converts.roundsTo_inSeconds (h : s.Converts whole part units) (hlow : 2 ^ 20 ≤ s.seconds)
    (hhigh : s.seconds < 2 ^ 23) : RoundsTo (s.inSeconds * unitsPerOne) units := by
  have hone := unitsPerOne_pos'
  have hsum := h.sum
  rw [h.magnitude_whole (by omega)] at hsum
  obtain ⟨k, hk20, hk22, hklow, hkhigh⟩ := exists_two_pow_le_seconds hlow hhigh
  have hspan : s.inSeconds = s.seconds + s.fractional := s.inSeconds_eq
  have hfraction := s.fractional_nonneg
  have hsmall := s.fractional_le
  have hpart := magnitude_nonneg part
  have hpartLt := h.part_lt_one
  have hspacing :=
    spacing_floor_eq (a := s.seconds + magnitude part) (k := k) (by linarith) (by linarith)
  have hspacing' := spacing_floor_eq (a := s.inSeconds) (k := k) (by linarith) (by linarith)
  have hgrid (a : ℚ) : a * unitsPerOne / (2 ^ k / 2 ^ 52 * unitsPerOne) = a * 2 ^ 52 / 2 ^ k := by
    field_simp
  obtain ⟨-, n, hn, hunits⟩ := hsum
  rw [hspacing, hgrid] at hn
  refine ⟨mul_nonneg (by linarith) hone.le, n, ?_, ?_⟩
  · rw [hspacing', hgrid]
    exact isNearest_inSeconds hk20 hk22 h.abs_sub_part_le hn
  · rw [hunits, Nat.cast_inj.1 (hspacing.trans hspacing'.symm)]

end TimingBoard.Span
