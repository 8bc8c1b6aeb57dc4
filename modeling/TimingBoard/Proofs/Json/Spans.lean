import TimingBoard.Proofs.Json.Grammar
import TimingBoard.Proofs.Json.Rereading
import TimingBoard.Proofs.Time.Conversion

/-!
# Spans in settings files

A span is kept as a number of seconds.  It is read back to the nanosecond if it is at most 2 ^ 23
seconds long, which is 97 days; a longer one is off by at most the 2 ^ 50th part of itself.  A span
of 2 ^ 64 - 1024 seconds or more is written as 2 ^ 64 seconds, and there is no such span.
-/

namespace TimingBoard.Span

open Binary64 Json

variable {s t : Span} {whole part units v : ℕ} {q : ℚ}

-- The number of units in one is too large to be looked at.
attribute [local irreducible] unitsPerOne

/-! ## The way through a file -/

/-- The numbers on the way of a span into a file and out of it: its whole seconds, its fraction and
their sum, which is written, then the exact value of the literal after the first roundings, and the
number that is read. -/
structure IsKept (s : Span) (whole part units : ℕ) (q : ℚ) (v : ℕ) : Prop where
  converts : s.Converts whole part units
  rereads : Rereads units q v
  size : 1 / 2 ^ 40 ≤ magnitude units
  within : Within 2 s.inSeconds (magnitude units)

lemma inSeconds_bounds (h0 : s.nanos ≠ 0) : 1 / 10 ^ 9 ≤ s.inSeconds ∧ s.inSeconds < 2 ^ 64 := by
  have hleast : (1 : ℚ) ≤ s.nanos := by exact_mod_cast Nat.pos_of_ne_zero h0
  have hlimit : s.nanos < 2 ^ 64 * 10 ^ 9 := s.lt_limit
  have hlimit : (s.nanos : ℚ) < 2 ^ 64 * 10 ^ 9 := by exact_mod_cast hlimit
  exact ⟨div_le_div_of_nonneg_right hleast (by norm_num),
    by rwa [inSeconds, div_lt_iff₀ (by norm_num)]⟩

lemma exists_isKept (h0 : s.nanos ≠ 0) : ∃ whole part units q v, s.IsKept whole part units q v := by
  obtain ⟨whole, part, units, hconverts⟩ := s.exists_converts
  obtain ⟨hleast, hmost⟩ := inSeconds_bounds h0
  have hwithin := hconverts.within h0
  have hsize : 1 / 2 ^ 40 ≤ magnitude units :=
    le_trans (by norm_num [unitRoundoff]; linarith) hwithin.low
  obtain ⟨q, v, hrereads⟩ := exists_rereads hconverts.sum.spacing_dvd hsize
    (hwithin.high.trans (by norm_num [unitRoundoff]; linarith))
  exact ⟨whole, part, units, q, v, hconverts, hrereads, hsize, hwithin⟩

-- Unfolded at a span, the match would be reduced by calculating its number.
lemma toJson_def : toJson = fun s => (s.toBinary64.fractional?).elim .null .number := by
  delta toJson
  funext s
  cases s.toBinary64.fractional? <;> rfl

lemma ofJson?_eq_some_iff {json : Json} {b : Binary64} (h : json.binary64? = some b) :
    ofJson? json = some t ↔ ofBinary64 b = .ok t := by
  delta ofJson?
  simp only [h, bind, Option.bind_some]
  cases ofBinary64 b <;> simp

namespace IsKept

lemma toJson_eq (h : s.IsKept whole part units q v) :
    s.toJson = .number (shortest .even units).literal := by
  simp only [toJson_def, h.converts.toBinary64, Numeral.fractional?_finite, Option.elim_some]

/-- A span is read from a file as the span of the number that the literal is read as. -/
lemma ofJson?_eq_some_iff (h : s.IsKept whole part units q v) :
    ofJson? s.toJson = some t ↔ ofBinary64 (.finite false v) = .ok t := by
  rw [h.toJson_eq]
  exact Span.ofJson?_eq_some_iff h.rereads.read

lemma isNearest (h : s.IsKept whole part units q v) (ht : ofJson? s.toJson = some t) :
    IsNearest (magnitude v * 10 ^ 9) t.nanos :=
  ofBinary64_finite_iff.1 (h.ofJson?_eq_some_iff.1 ht)

/-! ### Accuracy and exactness -/

/-- From the number that is written to the one that is read there are five roundings at most. -/
lemma within_written (h : s.IsKept whole part units q v) :
    Within 5 (magnitude units) (magnitude v) := by
  have hq := (within_shortest h.converts.sum.spacing_dvd h.size).trans h.rereads.within
  refine hq.trans (within_of_roundsTo h.rereads.rounds (le_trans ?_ hq.low))
  have hsize := h.size
  norm_num [unitRoundoff]
  linarith

/-- From one on there are three of them. -/
lemma within_written_of_one_le (h : s.IsKept whole part units q v) (hone : 1 ≤ magnitude units) :
    Within 3 (magnitude units) (magnitude v) := by
  have hq := (within_shortest h.converts.sum.spacing_dvd h.size).trans
    (h.rereads.within_of_one_le hone)
  refine hq.trans (within_of_roundsTo h.rereads.rounds (le_trans ?_ hq.low))
  norm_num [unitRoundoff]
  linarith

lemma one_le_magnitude (h : s.IsKept whole part units q v) (hlong : 2 ≤ s.inSeconds) :
    1 ≤ magnitude units := by
  refine le_trans ?_ h.within.low
  norm_num [unitRoundoff]
  linarith

end IsKept

/-- A span is the one read back if the number that is read is less than half a nanosecond away. -/
lemma eq_of_abs_sub_lt (hnearest : IsNearest (magnitude v * 10 ^ 9) t.nanos)
    (hclose : |magnitude v - s.inSeconds| * 10 ^ 9 < 1 / 2) : t = s := by
  have hself : IsNearest (magnitude v * 10 ^ 9) s.nanos := by
    refine .inl ?_
    have hlength : (s.nanos : ℚ) = s.inSeconds * 10 ^ 9 := by
      rw [inSeconds, div_mul_cancel₀ _ (by norm_num)]
    rwa [hlength, ← sub_mul, abs_mul, abs_of_pos (show (0 : ℚ) < 10 ^ 9 by norm_num)]
  exact eq_of_nanos_eq (hnearest.unique hself)

namespace IsKept

/-- Below 2 ^ 19 seconds all seven roundings together make less than half a nanosecond. -/
lemma eq_of_lt (h : s.IsKept whole part units q v) (ht : ofJson? s.toJson = some t)
    (hlength : s.inSeconds < 2 ^ 19) : t = s := by
  have hpos : 0 ≤ s.inSeconds := by
    unfold inSeconds
    positivity
  have herror := (h.within.trans h.within_written).abs_sub_le hpos le_rfl
  refine eq_of_abs_sub_lt (h.isNearest ht) ?_
  calc |magnitude v - s.inSeconds| * 10 ^ 9
      ≤ s.inSeconds * ((7 : ℕ) * (1025 / 1024) * unitRoundoff) * 10 ^ 9 := by gcongr
    _ ≤ 2 ^ 19 * ((7 : ℕ) * (1025 / 1024) * unitRoundoff) * 10 ^ 9 := by
      have hnonneg := unitRoundoff_nonneg.1
      gcongr
    _ < 1 / 2 := by norm_num [unitRoundoff]

/-- Up to 2 ^ 20 seconds this is so for the four roundings after those of the seconds and the
fraction. -/
lemma eq_of_lt_two_pow_twenty (h : s.IsKept whole part units q v) (ht : ofJson? s.toJson = some t)
    (hlow : 2 ^ 19 ≤ s.inSeconds) (hhigh : s.inSeconds < 2 ^ 20) : t = s := by
  have hseconds : (s.seconds : ℚ) ≤ s.inSeconds := by
    rw [inSeconds_eq]
    linarith [s.fractional_nonneg]
  have hcount : s.seconds ≤ 2 ^ 53 := by
    have hcast : (s.seconds : ℚ) ≤ 2 ^ 53 := hseconds.trans (hhigh.le.trans (by norm_num))
    exact_mod_cast hcast
  have hsum : |magnitude whole + magnitude part - s.inSeconds| ≤ 1 / 2 ^ 54 := by
    rw [h.converts.magnitude_whole hcount, inSeconds_eq, add_sub_add_left_eq_sub, abs_sub_comm]
    exact h.converts.abs_sub_part_le
  obtain ⟨hsumLow, hsumHigh⟩ := abs_le.1 hsum
  have hone := h.one_le_magnitude (le_trans (by norm_num) hlow)
  have hrounded := within_of_roundsTo h.converts.sum (by linarith)
  have herror :=
    (hrounded.trans (h.within_written_of_one_le hone)).abs_sub_le (by linarith) (by decide)
  refine eq_of_abs_sub_lt (h.isNearest ht) ?_
  have hsize : magnitude whole + magnitude part ≤ 2 ^ 20 + 1 := by linarith
  calc |magnitude v - s.inSeconds| * 10 ^ 9
      ≤ (|magnitude v - (magnitude whole + magnitude part)| +
        |magnitude whole + magnitude part - s.inSeconds|) * 10 ^ 9 := by
        gcongr
        exact abs_sub_le _ _ _
    _ ≤ ((2 ^ 20 + 1) * ((4 : ℕ) * (1025 / 1024) * unitRoundoff) + 1 / 2 ^ 54) * 10 ^ 9 := by
      have hnonneg := unitRoundoff_nonneg.1
      have hbudget := mul_le_mul_of_nonneg_right hsize
        (show 0 ≤ ((4 : ℕ) : ℚ) * (1025 / 1024) * unitRoundoff by positivity)
      gcongr
      exact herror.trans hbudget
    _ < 1 / 2 := by norm_num [unitRoundoff]

/-- From there to 2 ^ 23 seconds nine places are enough, so that the number that is written is
read. -/
lemma read_eq_written (h : s.IsKept whole part units q v) (hlow : 2 ^ 20 ≤ s.inSeconds)
    (hhigh : s.inSeconds < 2 ^ 23) (hrounds : RoundsTo (s.inSeconds * unitsPerOne) units) :
      v = units := by
  have hunits := unitsPerOne_pos'
  have hdvd := hrounds.spacing_dvd
  have hone := h.one_le_magnitude (le_trans (by norm_num) hlow)
  have hmost : magnitude units ≤ 2 ^ 23 + 1 := by
    refine h.within.high.trans ?_
    norm_num [unitRoundoff]
    linarith
  have h0 : units ≠ 0 := by
    rintro rfl
    norm_num [magnitude] at hone
  have hfirst : 0 ≤ firstExponent units := le_firstExponent h0 (by simpa using hone)
  have hfirst' : firstExponent units < 8 := by
    have hbelow := (firstExponent_bounds h0).1
    rw [← magnitude_mul units, mul_le_mul_iff_left₀ hunits] at hbelow
    refine (zpow_lt_zpow_iff_right₀ (show (1 : ℚ) < 10 by norm_num)).1
      (hbelow.trans_lt (hmost.trans_lt ?_))
    norm_num
  have hplaces : -9 ≤ (shortest .even units).exponent := by
    refine (shortest_spec h0 hdvd .even).2 s.nanos (-9) (by omega) (by omega) ?_
    rw [zpow_neg, ← div_eq_mul_inv]
    exact (roundsTo_iff_includes h0 hdvd).1 hrounds
  have hdigits : (shortest .even units).value * 10 ^ 9 ≤ 2 ^ 53 := by
    have hvalue := (within_shortest hdvd h.size).high
    norm_num [unitRoundoff] at hvalue ⊢
    linarith
  have hexact := h.rereads.rounds
  rw [h.rereads.exact hplaces hdigits] at hexact
  exact hexact.unique (roundsTo_shortest h0 hdvd .even)

lemma eq_of_lt_two_pow_twenty_three (h : s.IsKept whole part units q v)
    (ht : ofJson? s.toJson = some t)
    (hlow : 2 ^ 20 ≤ s.inSeconds) (hhigh : s.inSeconds < 2 ^ 23) : t = s := by
  have hseconds : 2 ^ 20 ≤ s.seconds ∧ s.seconds < 2 ^ 23 := by
    rw [inSeconds, le_div_iff₀ (by norm_num)] at hlow
    rw [inSeconds, div_lt_iff₀ (by norm_num)] at hhigh
    have hlow : 2 ^ 20 * 10 ^ 9 ≤ s.nanos := by exact_mod_cast hlow
    have hhigh : s.nanos < 2 ^ 23 * 10 ^ 9 := by exact_mod_cast hhigh
    exact ⟨(Nat.le_div_iff_mul_le (by decide)).2 hlow, (Nat.div_lt_iff_lt_mul (by decide)).2 hhigh⟩
  have hrounds := h.converts.roundsTo_inSeconds hseconds.1 hseconds.2
  refine eq_of_abs_sub_lt (h.isNearest ht) ?_
  have herror := hrounds.abs_sub_magnitude_le hhigh
  rw [h.read_eq_written hlow hhigh hrounds, abs_sub_comm]
  calc |s.inSeconds - magnitude units| * 10 ^ 9 ≤ 2 ^ 23 / 2 ^ 54 * 10 ^ 9 := by gcongr
    _ < 1 / 2 := by norm_num

/-- A span of more than 2 ^ 23 seconds is off by a few roundings and the one to nanoseconds. -/
lemma abs_sub_le_of_lt (h : s.IsKept whole part units q v) (ht : ofJson? s.toJson = some t)
    (hlow : 2 ^ 23 * 10 ^ 9 ≤ s.nanos) : |(t.nanos - s.nanos : ℤ)| * 2 ^ 50 ≤ s.nanos := by
  have hlength : s.inSeconds * 10 ^ 9 = s.nanos := div_mul_cancel₀ _ (by norm_num)
  have hlow : (2 ^ 23 * 10 ^ 9 : ℚ) ≤ s.nanos := by exact_mod_cast hlow
  have hone := h.one_le_magnitude (by linarith)
  have herror :=
    (h.within.trans (h.within_written_of_one_le hone)).abs_sub_le (by linarith) (by decide)
  have hnearest := (h.isNearest ht).abs_sub_le
  have hcast : |(t.nanos - s.nanos : ℚ)| * 2 ^ 50 ≤ s.nanos := by
    calc |(t.nanos - s.nanos : ℚ)| * 2 ^ 50
        ≤ (|t.nanos - magnitude v * 10 ^ 9| + |magnitude v * 10 ^ 9 - s.nanos|) * 2 ^ 50 := by
          gcongr
          exact abs_sub_le _ _ _
      _ ≤ (1 / 2 + s.inSeconds * ((5 : ℕ) * (1025 / 1024) * unitRoundoff) * 10 ^ 9) * 2 ^ 50 := by
        rw [abs_sub_comm, ← hlength, ← sub_mul, abs_mul,
          abs_of_pos (show (0 : ℚ) < 10 ^ 9 by norm_num)]
        gcongr
      _ = 2 ^ 49 + s.nanos * ((5 : ℕ) * (1025 / 1024) * unitRoundoff * 2 ^ 50) := by
        rw [← hlength]
        ring
      _ ≤ s.nanos := by
        norm_num [unitRoundoff]
        linarith
  exact_mod_cast hcast

end IsKept

/-! ## The longest spans that are read back -/

/-- The two numbers next to the limit are read as they are written. -/
lemma binary64?_literal_limit :
    binary64? (.number (shortest .even ((2 ^ 64 - 2 ^ 11) * unitsPerOne)).literal) =
      some (.finite false ((2 ^ 64 - 2 ^ 11) * unitsPerOne)) ∧
    binary64? (.number (shortest .even (2 ^ 64 * unitsPerOne)).literal) =
      some (.finite false (2 ^ 64 * unitsPerOne)) := by
  decide +kernel

namespace IsKept

/-- A whole number of seconds is read back if its literal is. -/
lemma magnitude_read_eq {n : ℕ} (h : s.IsKept whole part units q v) (hunits : magnitude units = n)
    (hliteral : binary64? (.number (shortest .even (n * unitsPerOne)).literal) =
      some (.finite false (n * unitsPerOne))) : magnitude v = n := by
  have hread := h.rereads.read
  rw [eq_mul_unitsPerOne hunits, hliteral, Option.some.injEq] at hread
  obtain ⟨-, rfl⟩ := Binary64.finite.inj hread
  rw [← eq_mul_unitsPerOne hunits, hunits]

/-- A span of 2 ^ 64 - 1024 seconds or more becomes 2 ^ 64 seconds. -/
lemma magnitude_units_eq (h : s.IsKept whole part units q v) (hlong : 2 ^ 64 - 2 ^ 10 ≤ s.seconds) :
    magnitude units = (2 ^ 64 : ℕ) := by
  have hlong : (2 ^ 64 - 2 ^ 10 : ℚ) ≤ s.seconds := by
    have hcast : ((2 ^ 64 - 2 ^ 10 : ℕ) : ℚ) ≤ s.seconds := by exact_mod_cast hlong
    exact le_trans (by norm_num) hcast
  have hlimit : (s.seconds : ℚ) + 1 ≤ 2 ^ 64 := by exact_mod_cast s.seconds_lt
  have hpart := magnitude_nonneg part
  have hpartLt := h.converts.part_lt_one
  have hwholeLow : 2 ^ 64 ≤ magnitude whole := by
    rw [← not_lt, h.converts.seconds.magnitude_lt_iff 64]
    norm_num at hlong ⊢
    linarith
  have hwholeHigh := abs_le.1 (h.converts.seconds.abs_sub_magnitude_le (k := 65) (by linarith))
  have hlow : 2 ^ 64 ≤ magnitude units := by
    rw [← not_lt, h.converts.sum.magnitude_lt_iff 64]
    linarith
  have hhigh := abs_le.1 (h.converts.sum.abs_sub_magnitude_le (k := 65) (by linarith))
  have hbelow : magnitude units < 2 ^ 65 := by linarith
  obtain ⟨j, hj⟩ := exists_magnitude_eq h.converts.sum.spacing_dvd hlow hbelow
  -- It is less than one spacing above 2 ^ 64.
  have hjLow : (2 : ℚ) ^ 52 ≤ j := by linarith
  have hjHigh : (j : ℚ) < 2 ^ 52 + 1 := by linarith
  have hjLow : 2 ^ 52 ≤ j := by exact_mod_cast hjLow
  have hjHigh : j < 2 ^ 52 + 1 := by exact_mod_cast hjHigh
  rw [hj, show j = 2 ^ 52 by omega]
  norm_num

/-- A shorter one becomes at most the last number before 2 ^ 64. -/
lemma magnitude_units_le (h : s.IsKept whole part units q v)
    (hshort : s.seconds < 2 ^ 64 - 2 ^ 10) :
    magnitude units ≤ 2 ^ 64 - 2 ^ 11 := by
  have hshort : (s.seconds : ℚ) < 2 ^ 64 - 2 ^ 10 := by
    have hcast : (s.seconds : ℚ) < (2 ^ 64 - 2 ^ 10 : ℕ) := by exact_mod_cast hshort
    exact hcast.trans_le (by norm_num)
  have hpart := h.converts.part_lt_one
  have hwhole : magnitude whole < 2 ^ 64 := by
    rw [h.converts.seconds.magnitude_lt_iff 64]
    linarith
  have hwhole := magnitude_add_le h.converts.seconds.spacing_dvd hwhole
  have hunits : magnitude units < 2 ^ 64 := by
    rw [h.converts.sum.magnitude_lt_iff 64]
    linarith
  have hroom := magnitude_add_le h.converts.sum.spacing_dvd hunits
  linarith

/-- The last number is read back, and all smaller ones have room for two roundings. -/
lemma magnitude_read_lt (h : s.IsKept whole part units q v)
    (hunits : magnitude units ≤ 2 ^ 64 - 2 ^ 11) :
    magnitude v < 2 ^ 64 := by
  have hdvd := h.converts.sum.spacing_dvd
  have hbelow : magnitude units < 2 ^ 64 := by linarith
  rcases lt_or_ge (2 ^ 64 - 2 ^ 12) (magnitude units) with hlast | hless
  · obtain ⟨j, hj⟩ := exists_magnitude_eq (k := 63) hdvd (by linarith) hbelow
    have hlimit : magnitude units = (2 ^ 64 - 2 ^ 11 : ℕ) := by
      have hjLow : (2 : ℚ) ^ 53 < j + 2 := by linarith
      have hjHigh : (j : ℚ) + 1 ≤ 2 ^ 53 := by linarith
      have hjLow : 2 ^ 53 < j + 2 := by exact_mod_cast hjLow
      have hjHigh : j + 1 ≤ 2 ^ 53 := by exact_mod_cast hjHigh
      rw [hj, show j = 2 ^ 53 - 1 by omega]
      norm_num
    rw [h.magnitude_read_eq hlimit binary64?_literal_limit.1]
    norm_num
  · have h0 : units ≠ 0 := by
      have hsize := h.size
      rintro rfl
      norm_num [magnitude] at hsize
    have hdecimal := roundsTo_shortest h0 hdvd .even
    have hvalue := (hdecimal.magnitude_lt_iff 64).1 hbelow
    have hnear := abs_le.1 (hdecimal.abs_sub_magnitude_le (k := 64) (by linarith))
    rw [h.rereads.rounds.magnitude_lt_iff 64]
    rcases le_or_gt 1 (magnitude units) with hone | hsmall
    · have hread := (h.rereads.within_of_one_le hone).high
      norm_num [unitRoundoff] at hread hnear hless ⊢
      linarith
    · have hread := h.rereads.within.high
      norm_num [unitRoundoff] at hread hnear ⊢
      linarith

end IsKept

/-! ## Spans from their JSON -/

/-- What happens to the span of no time and to one of 2 ^ 23 seconds. -/
lemma ofJson?_toJson_ends : ofJson? zero.toJson = some zero ∧
    ofJson? (ofSeconds (2 ^ 23)).toJson = some (ofSeconds (2 ^ 23)) := by
  decide +kernel

/-- Every span but no time at all goes the way through a file. -/
lemma eq_zero_or_isKept (s : Span) : s = zero ∨ ∃ whole part units q v,
    s.IsKept whole part units q v := by
  by_cases h0 : s.nanos = 0
  · obtain ⟨nanos, hlimit⟩ := s
    obtain rfl : nanos = 0 := h0
    exact .inl rfl
  · exact .inr (exists_isKept h0)

/-- The JSON of a span is the literal of a number. -/
lemma exists_toJson_eq (s : Span) : ∃ literal, s.toJson = .number literal ∧ IsNumber literal := by
  rcases s.eq_zero_or_isKept with rfl | ⟨_, _, _, _, _, h⟩
  · have hzero : zero.toBinary64.fractional? = some "0.0".toList := by decide +kernel
    exact ⟨"0.0".toList, by simp only [toJson_def, hzero, Option.elim_some],
      by unfold IsNumber; decide⟩
  · exact ⟨_, h.toJson_eq, h.rereads.isNumber⟩

/-- A span is read from its JSON exactly if it is shorter than 2 ^ 64 - 1024 seconds. -/
theorem exists_ofJson?_toJson_iff (s : Span) :
    (∃ t, ofJson? s.toJson = some t) ↔ s.nanos < (2 ^ 64 - 2 ^ 10) * 10 ^ 9 := by
  have hseconds : s.nanos < (2 ^ 64 - 2 ^ 10) * 10 ^ 9 ↔ s.seconds < 2 ^ 64 - 2 ^ 10 :=
    (Nat.div_lt_iff_lt_mul (by decide)).symm
  rw [hseconds]
  rcases s.eq_zero_or_isKept with rfl | ⟨_, _, _, _, _, h⟩
  · exact iff_of_true ⟨zero, ofJson?_toJson_ends.1⟩ (by decide)
  · simp only [h.ofJson?_eq_some_iff]
    rw [exists_ofBinary64_iff h.rereads.rounds.spacing_dvd]
    constructor
    · intro hlt
      by_contra! hlong
      rw [h.magnitude_read_eq (h.magnitude_units_eq hlong) binary64?_literal_limit.2] at hlt
      norm_num at hlt
    · exact fun hshort => h.magnitude_read_lt (h.magnitude_units_le hshort)

/-- Up to 2 ^ 23 seconds, which is 97 days, a span is read back from its JSON. -/
theorem eq_of_ofJson?_toJson (ht : ofJson? s.toJson = some t)
    (hlength : s.nanos ≤ 2 ^ 23 * 10 ^ 9) :
    t = s := by
  rcases s.eq_zero_or_isKept with rfl | ⟨_, _, _, _, _, h⟩
  · exact Option.some.inj (ht.symm.trans ofJson?_toJson_ends.1)
  · rcases hlength.lt_or_eq with hlt | heq
    · have hbelow : s.inSeconds < 2 ^ 23 := by
        rw [inSeconds, div_lt_iff₀ (by norm_num)]
        exact_mod_cast hlt
      rcases lt_or_ge s.inSeconds (2 ^ 19) with hshort | hlong
      · exact h.eq_of_lt ht hshort
      · rcases lt_or_ge s.inSeconds (2 ^ 20) with hmiddle | hlong'
        · exact h.eq_of_lt_two_pow_twenty ht hlong hmiddle
        · exact h.eq_of_lt_two_pow_twenty_three ht hlong' hbelow
    · obtain rfl : s = ofSeconds (2 ^ 23) := eq_of_nanos_eq (heq.trans (by decide))
      exact Option.some.inj (ht.symm.trans ofJson?_toJson_ends.2)

/-- What is read back from the JSON of a span is off by at most the 2 ^ 50th part of it. -/
theorem abs_sub_le_of_ofJson?_toJson (ht : ofJson? s.toJson = some t) :
    |(t.nanos - s.nanos : ℤ)| * 2 ^ 50 ≤ s.nanos := by
  rcases le_total s.nanos (2 ^ 23 * 10 ^ 9) with hshort | hlong
  · rw [eq_of_ofJson?_toJson ht hshort]
    simp
  · rcases s.eq_zero_or_isKept with rfl | ⟨_, _, _, _, _, h⟩
    · exact absurd hlong (by decide)
    · exact h.abs_sub_le_of_lt ht hlong

end TimingBoard.Span
