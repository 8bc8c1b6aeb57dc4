import Mathlib.Tactic.FieldSimp
import TimingBoard.Number.Shortest
import TimingBoard.Proofs.Number.Nearest

/-!
# What reads back as a number

The interval that is kept for a number of the format is exactly what is rounded to it: half a
spacing to both sides, except that the numbers below a power of two are twice as close, and with the
ends if the coefficient is even.
-/

namespace TimingBoard.Binary64

variable {point den units e : ℕ} {a b c q : ℚ} {r : ReadBack}

/-! ## Intervals -/

/-- An exact magnitude, in units, lies in an interval that is given in quarters of a unit. -/
def ReadBack.Includes (r : ReadBack) (q : ℚ) : Prop :=
  ((r.low : ℚ) < 4 * q ∨ r.endsIncluded = true ∧ (r.low : ℚ) = 4 * q) ∧
    (4 * q < (r.high : ℚ) ∨ r.endsIncluded = true ∧ 4 * q = (r.high : ℚ))

namespace ReadBack

lemma contains_iff (hden : 0 < den) : r.contains point den = true ↔
    r.Includes (point / (4 * den)) := by
  have hpos : (0 : ℚ) < den := by exact_mod_cast hden
  have hquarters : 4 * ((point : ℚ) / (4 * den)) = point / den := by
    field_simp
  have hlow : (r.low : ℚ) < point / den ↔ r.low * den < point := by
    rw [lt_div_iff₀ hpos]
    exact_mod_cast Iff.rfl
  have hhigh : (point : ℚ) / den < r.high ↔ point < r.high * den := by
    rw [div_lt_iff₀ hpos]
    exact_mod_cast Iff.rfl
  have hlowest : (r.low : ℚ) = point / den ↔ r.low * den = point := by
    rw [eq_div_iff hpos.ne']
    exact_mod_cast Iff.rfl
  have hhighest : (point : ℚ) / den = r.high ↔ point = r.high * den := by
    rw [div_eq_iff hpos.ne']
    exact_mod_cast Iff.rfl
  unfold Includes contains
  rw [hquarters, hlow, hhigh, hlowest, hhighest]
  split
  · next hends =>
    simp only [hends, true_and, Bool.and_eq_true, decide_eq_true_eq]
    exact and_congr le_iff_lt_or_eq le_iff_lt_or_eq
  · next hends =>
    simp [hends]

/-- What lies between two magnitudes of the interval is one too. -/
lemma Includes.between (ha : r.Includes a) (hb : r.Includes b) (hac : a ≤ c) (hcb : c ≤ b) :
    r.Includes c := by
  refine ⟨?_, ?_⟩
  · rcases hac.eq_or_lt with rfl | hlt
    · exact ha.1
    · rcases ha.1 with hlow | ⟨-, hlow⟩ <;> exact .inl (by linarith)
  · rcases hcb.eq_or_lt with rfl | hlt
    · exact hb.2
    · rcases hb.2 with hhigh | ⟨-, hhigh⟩ <;> exact .inl (by linarith)

end ReadBack

/-! ## The interval of a number -/

/-- The distance of the lower end from a number, in quarters of a unit. -/
def below (units : ℕ) : ℕ :=
  if units = 2 ^ units.log2 ∧ spacing units ≠ 1 then spacing units else 2 * spacing units

lemma below_pos (units : ℕ) : 0 < below units := by
  have hpos := spacing_pos units
  unfold below
  split <;> omega

lemma below_le (units : ℕ) : below units ≤ 2 * spacing units := by
  unfold below
  split <;> omega

/-- The interval of a number, with the distances to both sides. -/
lemma includes_iff (h0 : units ≠ 0) (hdvd : spacing units ∣ units) : (readBack units).Includes q ↔
    ((4 * units - below units : ℚ) < 4 * q ∨
      units / spacing units % 2 = 0 ∧ (4 * units - below units : ℚ) = 4 * q) ∧
    (4 * q < (4 * units + 2 * spacing units : ℚ) ∨
      units / spacing units % 2 = 0 ∧ 4 * q = (4 * units + 2 * spacing units : ℚ)) := by
  have hle : below units ≤ 4 * units := by
    have hspacing := Nat.le_of_dvd (Nat.pos_of_ne_zero h0) hdvd
    have hbelow := below_le units
    omega
  have hlow : ((readBack units).low : ℚ) = 4 * units - below units := by
    have hnat : (readBack units).low = 4 * units - below units := rfl
    rw [hnat, Nat.cast_sub hle]
    push_cast
    rfl
  have hhigh : ((readBack units).high : ℚ) = 4 * units + 2 * spacing units := by
    have hnat : (readBack units).high = 4 * units + 2 * spacing units := rfl
    rw [hnat]
    push_cast
    rfl
  have hends : (readBack units).endsIncluded = true ↔ units / spacing units % 2 = 0 :=
    decide_eq_true_iff
  rw [ReadBack.Includes, hlow, hhigh, hends]

/-- A number lies inside of its interval. -/
lemma includes_self (h0 : units ≠ 0) (hdvd : spacing units ∣ units) :
    (readBack units).Includes units := by
  have hbelow : (0 : ℚ) < below units := by exact_mod_cast below_pos units
  have hspacing : (0 : ℚ) < spacing units := by exact_mod_cast spacing_pos units
  exact (includes_iff h0 hdvd).2 ⟨.inl (by linarith), .inl (by linarith)⟩

/-- What reads back as a number is at most half a spacing away from it. -/
lemma abs_sub_le_of_includes (h0 : units ≠ 0) (hdvd : spacing units ∣ units)
    (h : (readBack units).Includes q) : |q - units| ≤ spacing units / 2 := by
  have hbelow : (below units : ℚ) ≤ 2 * spacing units := by exact_mod_cast below_le units
  obtain ⟨hlow, hhigh⟩ := (includes_iff h0 hdvd).1 h
  rw [abs_le]
  constructor
  · rcases hlow with hlt | ⟨-, heq⟩ <;> linarith
  · rcases hhigh with hlt | ⟨-, heq⟩ <;> linarith

/-! ## Binades -/

/-- The binade of a magnitude: its spacing is the power of two that leaves at most 53 significant
bits, and no fewer unless it is the least spacing. -/
lemma exists_spacing_eq (units : ℕ) :
    ∃ e, spacing units = 2 ^ e ∧ units < 2 ^ (e + 53) ∧ (e = 0 ∨ 2 ^ (e + 52) ≤ units) := by
  refine ⟨units.log2 - 52, Nat.pow_eq, ?_, ?_⟩
  · exact Nat.lt_log2_self.trans_le (Nat.pow_le_pow_right (by decide) (by omega))
  · rcases le_or_gt units.log2 52 with hle | hgt
    · exact .inl (by omega)
    · have h0 : units ≠ 0 := by
        rintro rfl
        simp at hgt
      rw [Nat.sub_add_cancel hgt.le]
      exact .inr (Nat.log2_self_le h0)

lemma spacing_eq_of_lt (hlow : e = 0 ∨ 2 ^ (e + 52) ≤ units) (hhigh : units < 2 ^ (e + 53)) :
    spacing units = 2 ^ e := by
  rcases hlow with rfl | hlow
  · have hle := spacing_le hhigh
    have hpos := spacing_pos units
    omega
  · exact spacing_eq hlow hhigh

/-- A magnitude that has the same spacing as a number is rounded to it from half a spacing
around. -/
lemma roundsTo_iff_of_spacing_eq (hq : 0 ≤ q) (hspacing : spacing ⌊q⌋₊ = spacing units)
    (hdvd : spacing units ∣ units) : RoundsTo q units ↔ |q - units| < spacing units / 2 ∨
      |q - units| = spacing units / 2 ∧ units / spacing units % 2 = 0 := by
  have hpos : (0 : ℚ) < spacing units := by exact_mod_cast spacing_pos units
  obtain ⟨n, hn⟩ := hdvd
  have hquotient : units / spacing units = n := Nat.div_eq_of_eq_mul_right (spacing_pos units) hn
  have hcast : (units : ℚ) = spacing units * n := by exact_mod_cast hn
  have hdist : |q / spacing units - n| = |q - units| / spacing units := by
    rw [hcast, ← abs_of_pos hpos, ← abs_div, abs_of_pos hpos, sub_div,
      mul_div_cancel_left₀ _ hpos.ne']
  have hnearest : IsNearest (q / spacing units) n ↔ |q - units| < spacing units / 2 ∨
      |q - units| = spacing units / 2 ∧ units / spacing units % 2 = 0 := by
    have hhalf : (1 : ℚ) / 2 * spacing units = spacing units / 2 := by ring
    rw [IsNearest, hdist, hquotient, div_lt_iff₀ hpos, div_eq_iff hpos.ne', hhalf]
  rw [← hnearest]
  constructor
  · rintro ⟨-, m, hm, hunits⟩
    rw [hspacing] at hm hunits
    have hmn : m = n := by
      refine Nat.eq_of_mul_eq_mul_left (spacing_pos units) ?_
      rw [← hn, mul_comm]
      exact hunits.symm
    rwa [← hmn]
  · intro h
    exact ⟨hq, n, by rwa [hspacing], by rw [hspacing, mul_comm]; exact hn⟩

lemma includes_iff_of_spacing_eq (h0 : units ≠ 0) (hdvd : spacing units ∣ units) (hq : 0 ≤ q)
    (hspacing : spacing ⌊q⌋₊ = spacing units) (hlow : spacing units = 1 ∨ 2 ^ units.log2 ≤ ⌊q⌋₊) :
    (readBack units).Includes q ↔ RoundsTo q units := by
  rw [roundsTo_iff_of_spacing_eq hq hspacing hdvd, includes_iff h0 hdvd]
  have hpos : (0 : ℚ) < spacing units := by exact_mod_cast spacing_pos units
  unfold below
  split
  · -- At a power of two there is nothing below in this binade.
    next hpower =>
    have hle : (units : ℚ) ≤ q := by
      have hfloor : units ≤ ⌊q⌋₊ := hpower.1.trans_le (hlow.resolve_left hpower.2)
      exact (Nat.cast_le.2 hfloor).trans (Nat.floor_le hq)
    rw [abs_of_nonneg (by linarith)]
    constructor
    · rintro ⟨-, hlt | ⟨heven, heq⟩⟩
      · exact .inl (by linarith)
      · exact .inr ⟨by linarith, heven⟩
    · rintro (hlt | ⟨heq, heven⟩)
      · exact ⟨.inl (by linarith), .inl (by linarith)⟩
      · exact ⟨.inl (by linarith), .inr ⟨heven, by linarith⟩⟩
  · push_cast
    constructor
    · rintro ⟨hlow | ⟨heven, hlow⟩, hhigh | ⟨heven, hhigh⟩⟩
      · exact .inl (abs_lt.2 ⟨by linarith, by linarith⟩)
      · exact .inr ⟨by rw [abs_of_nonneg] <;> linarith, heven⟩
      · exact .inr ⟨by rw [abs_of_nonpos] <;> linarith, heven⟩
      · exact .inr ⟨by rw [abs_of_nonneg] <;> linarith, heven⟩
    · rintro (hlt | ⟨heq, heven⟩)
      · obtain ⟨hleft, hright⟩ := abs_lt.1 hlt
        exact ⟨.inl (by linarith), .inl (by linarith)⟩
      · rcases (abs_eq (by linarith)).1 heq with hright | hleft
        · exact ⟨.inl (by linarith), .inr ⟨heven, by linarith⟩⟩
        · exact ⟨.inr ⟨heven, by linarith⟩, .inl (by linarith)⟩

lemma eq_of_dvd_of_lt_add {step top n : ℕ} (htop : step ∣ top) (hn : step ∣ n) (hle : top ≤ n)
    (hlt : n < top + step) : n = top :=
  le_antisymm (Nat.le_of_lt_add_of_dvd hlt hn htop) hle

/-- What is rounded up beyond its binade is rounded to the power of two above. -/
lemma RoundsTo.eq_two_pow (h : RoundsTo q units) (hq : q < 2 ^ (e + 53))
    (hle : 2 ^ (e + 53) ≤ units) :
    units = 2 ^ (e + 53) := by
  have hstep : (2 : ℚ) ^ (e + 1) = 2 * 2 ^ e := by ring
  have hpos : (0 : ℚ) < 2 ^ e := by positivity
  have hlt : units < 2 ^ (e + 53) + 2 ^ (e + 1) := by
    have herror := abs_le.1 (h.abs_sub_le_of_lt hq)
    have hcast : (units : ℚ) < 2 ^ (e + 53) + 2 ^ (e + 1) := by linarith
    exact_mod_cast hcast
  have hspacing : spacing units = 2 ^ (e + 1) := by
    have hlow : 2 ^ (e + 1 + 52) = 2 ^ (e + 53) := by ring
    have hhigh : 2 ^ (e + 53) + 2 ^ (e + 1) ≤ 2 ^ (e + 1 + 53) := by
      have hdouble : 2 ^ (e + 1 + 53) = 2 ^ (e + 53) + 2 ^ (e + 53) := by ring
      rw [hdouble]
      exact Nat.add_le_add_left (Nat.pow_le_pow_right (by decide) (by omega)) _
    exact spacing_eq (hlow.trans_le hle) (hlt.trans_le hhigh)
  have hdvd := h.spacing_dvd
  rw [hspacing] at hdvd
  have htop : 2 ^ (e + 1) ∣ 2 ^ (e + 53) := Nat.pow_dvd_pow 2 (by omega)
  exact eq_of_dvd_of_lt_add htop hdvd hle hlt

/-- Below its binade only a power of two is reached, from half the distance to the number below. -/
lemma roundsTo_iff_of_lt (hq : 0 ≤ q) (hlt : q < 2 ^ (e + 53)) (hle : 2 ^ (e + 53) ≤ units) :
    RoundsTo q units ↔ units = 2 ^ (e + 53) ∧ (2 ^ 54 - 1) * 2 ^ e ≤ 2 * q := by
  constructor
  · intro h
    exact ⟨h.eq_two_pow hlt hle, not_lt.1 fun hbelow => (not_lt.2 hle) ((h.lt_iff e).2 hbelow)⟩
  · rintro ⟨hunits, hclose⟩
    obtain ⟨other, hother⟩ := exists_roundsTo hq
    have habove : 2 ^ (e + 53) ≤ other :=
      not_lt.1 fun hbelow => (not_lt.2 hclose) ((hother.lt_iff e).1 hbelow)
    rwa [hother.eq_two_pow hlt habove, ← hunits] at hother

lemma includes_iff_of_lt (hspacing : spacing units = 2 ^ (e + 1)) (hdvd : spacing units ∣ units)
    (hlt : q < 2 ^ (e + 53)) (hle : 2 ^ (e + 53) ≤ units) : (readBack units).Includes q ↔
      units = 2 ^ (e + 53) ∧ (2 ^ 54 - 1) * 2 ^ e ≤ 2 * q := by
  have h0 : units ≠ 0 := ((Nat.two_pow_pos _).trans_le hle).ne'
  have hpos : (0 : ℚ) < 2 ^ e := by positivity
  have hstep : (2 : ℚ) ^ (e + 1) = 2 * 2 ^ e := by ring
  have hwhole : (2 : ℚ) ^ (e + 53) = 2 ^ 53 * 2 ^ e := by ring
  have hcast : (spacing units : ℚ) = 2 * 2 ^ e := by
    rw [hspacing, ← hstep, Nat.cast_pow, Nat.cast_ofNat]
  have htop : 2 ^ (e + 1) ∣ 2 ^ (e + 53) := Nat.pow_dvd_pow 2 (by omega)
  -- The lower end is closer by half, and it belongs to the interval.
  have hpower (hunits : units = 2 ^ (e + 53)) :
      (below units : ℚ) = 2 * 2 ^ e ∧ units / spacing units % 2 = 0 := by
    constructor
    · rw [below, if_pos, hcast]
      rw [hspacing, hunits, Nat.log2_two_pow]
      exact ⟨rfl, (Nat.one_lt_two_pow (by omega)).ne'⟩
    · rw [hspacing, hunits, Nat.pow_div (by omega) Nat.two_pos, show e + 53 - (e + 1) = 52 by omega]
  have hunitsCast (hunits : units = 2 ^ (e + 53)) : (units : ℚ) = 2 ^ 53 * 2 ^ e := by
    rw [hunits, Nat.cast_pow, Nat.cast_ofNat, hwhole]
  constructor
  · intro h
    have herror := abs_le.1 (abs_sub_le_of_includes h0 hdvd h)
    have hunits : units = 2 ^ (e + 53) := by
      have hnear : (units : ℚ) < 2 ^ (e + 53) + 2 ^ (e + 1) := by linarith
      have hnear : units < 2 ^ (e + 53) + 2 ^ (e + 1) := by exact_mod_cast hnear
      exact eq_of_dvd_of_lt_add htop (hspacing ▸ hdvd) hle hnear
    refine ⟨hunits, ?_⟩
    obtain ⟨hbelow, -⟩ := hpower hunits
    have hunits := hunitsCast hunits
    rcases ((includes_iff h0 hdvd).1 h).1 with hlow | ⟨-, hlow⟩ <;> linarith
  · rintro ⟨hunits, hclose⟩
    obtain ⟨hbelow, heven⟩ := hpower hunits
    have hunits := hunitsCast hunits
    refine (includes_iff h0 hdvd).2 ⟨?_, .inl (by linarith)⟩
    have hlow : (4 * units - below units : ℚ) ≤ 4 * q := by linarith
    exact hlow.lt_or_eq.imp_right fun heq => ⟨heven, heq⟩

/-- **Rounding and reading back.**  What is rounded to a number of the format other than zero is
exactly what lies in its interval. -/
theorem roundsTo_iff_includes (h0 : units ≠ 0) (hdvd : spacing units ∣ units) :
    RoundsTo q units ↔ (readBack units).Includes q := by
  obtain ⟨e, hspacing, hhigh, hlow⟩ := exists_spacing_eq units
  have hpos : 0 < 2 ^ e := Nat.two_pow_pos e
  rcases lt_or_ge q 0 with hneg | hq
  · refine iff_of_false (fun h => (not_le.2 hneg) h.nonneg) fun h => ?_
    have hend : (0 : ℚ) ≤ (readBack units).low := Nat.cast_nonneg _
    rcases h.1 with hlt | ⟨-, heq⟩ <;> linarith
  have hbelow : (⌊q⌋₊ : ℚ) ≤ q := Nat.floor_le hq
  rcases lt_or_ge ⌊q⌋₊ (2 ^ (e + 53)) with hfloor | hfloor
  · by_cases hsame : e = 0 ∨ 2 ^ (e + 52) ≤ ⌊q⌋₊
    · have hfloorSpacing : spacing ⌊q⌋₊ = spacing units :=
        (spacing_eq_of_lt hsame hfloor).trans hspacing.symm
      refine (includes_iff_of_spacing_eq h0 hdvd hq hfloorSpacing ?_).symm
      rcases hsame with rfl | hsame
      · exact .inl hspacing
      · have hlog : units.log2 < e + 53 := (Nat.log2_lt h0).2 hhigh
        exact .inr ((Nat.pow_le_pow_right (by decide) (by omega)).trans hsame)
    · obtain ⟨he, hdown⟩ := not_or.1 hsame
      obtain ⟨k, rfl⟩ : ∃ k, e = k + 1 := ⟨e - 1, by omega⟩
      have hmiddle : 2 ^ (k + 1 + 52) = 2 ^ (k + 53) := by ring
      have hlt : q < 2 ^ (k + 53) := by
        have hnat := (Nat.floor_lt hq).1 ((not_le.1 hdown).trans_eq hmiddle)
        exact_mod_cast hnat
      have hle : 2 ^ (k + 53) ≤ units := hmiddle.symm.trans_le (hlow.resolve_left he)
      rw [roundsTo_iff_of_lt hq hlt hle, includes_iff_of_lt hspacing hdvd hlt hle]
  · have hstep : (2 : ℚ) ^ (e + 53) = 2 ^ 53 * 2 ^ e := by ring
    have habove : (2 : ℚ) ^ (e + 53) ≤ q := by
      have hcast : (2 : ℚ) ^ (e + 53) ≤ ⌊q⌋₊ := by exact_mod_cast hfloor
      exact hcast.trans hbelow
    refine iff_of_false (fun h => ?_) fun h => ?_
    · have hclose := (h.lt_iff e).1 hhigh
      linarith
    · have herror := abs_le.1 (abs_sub_le_of_includes h0 hdvd h)
      have hroom := add_two_pow_le hdvd hhigh
      have hcast : (spacing units : ℚ) = 2 ^ e := by rw [hspacing, Nat.cast_pow, Nat.cast_ofNat]
      have hroom : (units : ℚ) + 2 ^ e ≤ 2 ^ (e + 53) := by exact_mod_cast hroom
      have hpos : (0 : ℚ) < 2 ^ e := by positivity
      linarith

end TimingBoard.Binary64
