import Mathlib.Algebra.Order.Field.Power
import TimingBoard.Proofs.Number.ReadBack
import TimingBoard.Proofs.Number.Shortest

/-!
# The search for the shortest decimal

The grids of decimals are tried from the coarsest on.  On each, one of the two points next to a
number reads back if any point does, because what reads back is an interval around the number.  A
grid of seventeen digits always has such a point, since the interval is longer than the distance of
its points.  So the search succeeds, and no coarser grid that it tries has a point that reads back.
-/

namespace TimingBoard

/-- The value of a numeral. -/
def Numeral.value (n : Numeral) : ℚ :=
  n.coefficient * 10 ^ n.exponent

namespace Binary64

variable {units c k m : ℕ} {tie : DecimalTie} {power : ℤ} {n : Numeral}

-- The number of units in one is too large to be looked at.
attribute [local irreducible] unitsPerOne

/-! ## One grid -/

lemma ten_zpow_eq (power : ℤ) : (10 : ℚ) ^ power = 10 ^ power.toNat / 10 ^ (-power).toNat := by
  rw [← zpow_natCast, ← zpow_natCast, ← zpow_sub₀ (by norm_num)]
  congr 1
  omega

/-- A point of a grid reads back if its value does. -/
lemma contains_grid_iff (c : ℕ) (power : ℤ) :
    (readBack units).contains (c * (4 * unitsPerOne * Nat.pow 10 power.toNat))
      (Nat.pow 10 (-power).toNat) = true ↔
    (readBack units).Includes (c * 10 ^ power * unitsPerOne) := by
  have hden : 0 < Nat.pow 10 (-power).toNat := Nat.pow_pos (by decide)
  have hvalue : ((c * (4 * unitsPerOne * Nat.pow 10 power.toNat) : ℕ) : ℚ) /
      (4 * (Nat.pow 10 (-power).toNat : ℕ)) = c * 10 ^ power * unitsPerOne := by
    rw [ten_zpow_eq, Nat.pow_eq, Nat.pow_eq]
    push_cast
    field_simp
  rw [ReadBack.contains_iff hden, hvalue]

/-- The point of a grid that is next to a number from below. -/
lemma floor_grid (units : ℕ) (power : ℤ) :
    let c := 4 * units * Nat.pow 10 (-power).toNat / (4 * unitsPerOne * Nat.pow 10 power.toNat)
    (c * 10 ^ power * unitsPerOne : ℚ) ≤ units ∧
      (units : ℚ) < (c + 1 : ℕ) * 10 ^ power * unitsPerOne := by
  intro c
  have hden : (0 : ℚ) < 10 ^ (-power).toNat := by positivity
  have hstep : 0 < 4 * unitsPerOne * Nat.pow 10 power.toNat :=
    Nat.mul_pos (Nat.mul_pos (by decide) unitsPerOne_pos) (Nat.pow_pos (by decide))
  have hlow : c * (4 * unitsPerOne * Nat.pow 10 power.toNat) ≤
      4 * units * Nat.pow 10 (-power).toNat :=
    Nat.div_mul_le_self _ _
  have hhigh : 4 * units * Nat.pow 10 (-power).toNat <
      (c + 1) * (4 * unitsPerOne * Nat.pow 10 power.toNat) :=
    Nat.lt_mul_of_div_lt (Nat.lt_succ_self c) hstep
  rw [Nat.pow_eq, Nat.pow_eq] at hlow hhigh
  have hlow : (c * (4 * unitsPerOne * 10 ^ power.toNat) : ℚ) ≤ 4 * units * 10 ^ (-power).toNat := by
    exact_mod_cast hlow
  have hhigh : (4 * units * 10 ^ (-power).toNat : ℚ) <
      (c + 1 : ℕ) * (4 * unitsPerOne * 10 ^ power.toNat) := by
    exact_mod_cast hhigh
  have hscale (a : ℚ) : a * 10 ^ power * unitsPerOne =
      a * (unitsPerOne * 10 ^ power.toNat) / 10 ^ (-power).toNat := by
    rw [ten_zpow_eq]
    ring
  rw [hscale, hscale, div_le_iff₀ hden, lt_div_iff₀ hden]
  constructor <;> linarith

/-- A grid with a point that reads back has one that is found. -/
lemma exists_onGrid? (h0 : units ≠ 0) (hdvd : spacing units ∣ units) (tie : DecimalTie)
    (h : (readBack units).Includes (c * 10 ^ power * unitsPerOne)) :
    ∃ n, onGrid? tie units power = some n := by
  have hone : (0 : ℚ) < unitsPerOne := by exact_mod_cast unitsPerOne_pos
  have hgrid {a b : ℕ} (hab : a ≤ b) :
      (a * 10 ^ power * unitsPerOne : ℚ) ≤ b * 10 ^ power * unitsPerOne := by
    have hpower : (0 : ℚ) ≤ 10 ^ power := by positivity
    gcongr
  have hself := includes_self h0 hdvd
  obtain ⟨hdown, hup⟩ := floor_grid units power
  unfold onGrid?
  simp only
  generalize
    4 * units * Nat.pow 10 (-power).toNat / (4 * unitsPerOne * Nat.pow 10 power.toNat) = low at *
  split
  · next hlow hnext =>
    -- The point lies on one side of the number, and the neighbour on this side is in between.
    exfalso
    rcases le_or_gt c low with hle | hgt
    · have hincludes := h.between hself (hgrid hle) hdown
      rw [← contains_grid_iff, hlow] at hincludes
      exact Bool.false_ne_true hincludes
    · have hincludes := hself.between h hup.le (hgrid hgt)
      rw [← contains_grid_iff, hnext] at hincludes
      exact Bool.false_ne_true hincludes
  iterate 3 exact ⟨_, rfl⟩

/-- What is found on a grid has its exponent, and reads back. -/
lemma includes_of_onGrid? (h : onGrid? tie units power = some n) :
    n.exponent = power ∧ (readBack units).Includes (n.value * unitsPerOne) := by
  obtain ⟨hpower, hcontains⟩ := contains_of_onGrid? h
  rw [contains_grid_iff] at hcontains
  refine ⟨hpower, ?_⟩
  rwa [Numeral.value, hpower]

/-! ## Seventeen digits -/

lemma unitsPerOne_le : unitsPerOne ≤ 10 ^ 324 := by
  decide +kernel

/-- The digits of a number say between which powers of ten it is. -/
lemma length_toDigits_bounds {n : ℕ} (h0 : n ≠ 0) :
    10 ^ ((Nat.toDigits 10 n).length - 1) ≤ n ∧ n < 10 ^ (Nat.toDigits 10 n).length := by
  have hpos : 0 < (Nat.toDigits 10 n).length := Nat.length_toDigits_pos
  exact ⟨pow_le_of_lt_length (by omega) h0, lt_pow_length_toDigits n⟩

/-- The first digit of a number that is not zero has the exponent that is computed for it. -/
lemma firstExponent_bounds (h0 : units ≠ 0) :
    (10 ^ firstExponent units * unitsPerOne : ℚ) ≤ units ∧
      (units : ℚ) < 10 ^ (firstExponent units + 1) * unitsPerOne := by
  have hone := unitsPerOne_pos
  have hle := unitsPerOne_le
  unfold firstExponent
  rw [show (325 : ℤ) = (324 : ℕ) + 1 by norm_num]
  generalize 324 = scale at *
  rw [Nat.pow_eq]
  have hten : (0 : ℚ) < 10 ^ scale := by positivity
  have hpos : 0 < (Nat.toDigits 10 (units * 10 ^ scale / unitsPerOne)).length :=
    Nat.length_toDigits_pos
  have hnonzero : units * 10 ^ scale / unitsPerOne ≠ 0 := by
    refine (Nat.div_pos (hle.trans ?_) hone).ne'
    exact Nat.le_mul_of_pos_left _ (Nat.pos_of_ne_zero h0)
  obtain ⟨hlow, hhigh⟩ := length_toDigits_bounds hnonzero
  generalize (Nat.toDigits 10 (units * 10 ^ scale / unitsPerOne)).length = len at *
  have hlow : (10 ^ (len - 1) * unitsPerOne : ℚ) ≤ units * 10 ^ scale := by
    exact_mod_cast (Nat.mul_le_mul_right _ hlow).trans (Nat.div_mul_le_self _ _)
  have hhigh : (units * 10 ^ scale : ℚ) < 10 ^ len * unitsPerOne := by
    exact_mod_cast Nat.lt_mul_of_div_lt hhigh hone
  have hpow (j : ℕ) : (10 : ℚ) ^ ((j : ℤ) - scale) = 10 ^ j / 10 ^ scale := by
    rw [zpow_sub₀ (by norm_num), zpow_natCast, zpow_natCast]
  have hbelow : (len : ℤ) - (scale + 1) = (len - 1 : ℕ) - scale := by omega
  have habove : ((len - 1 : ℕ) : ℤ) - scale + 1 = len - scale := by omega
  rw [hbelow, habove, hpow, hpow, div_mul_eq_mul_div, div_mul_eq_mul_div, div_le_iff₀ hten,
    lt_div_iff₀ hten]
  exact ⟨hlow, hhigh⟩

/-- The interval of a number is longer than the 10 ^ 16th part of the number. -/
lemma lt_length_readBack (units : ℕ) :
    (units : ℚ) / 10 ^ 16 < below units / 4 + spacing units / 2 := by
  have hpos : (0 : ℚ) < spacing units := by exact_mod_cast spacing_pos units
  unfold below
  split
  · next hpower =>
    -- A power of two has the least coefficient.
    have hcoefficient : units = 2 ^ 52 * spacing units := by
      have hlog : 52 < units.log2 := by
        by_contra hle
        refine hpower.2 ?_
        rw [spacing, Nat.sub_eq_zero_of_le (not_lt.1 hle), Nat.pow_eq, pow_zero]
      rw [spacing, Nat.pow_eq, ← pow_add, Nat.add_sub_cancel' hlog.le]
      exact hpower.1
    have hcast : (units : ℚ) = 2 ^ 52 * spacing units := by exact_mod_cast hcoefficient
    linarith
  · have hmany : (units : ℚ) < 2 ^ 53 * spacing units := by exact_mod_cast lt_mul_spacing units
    push_cast
    linarith

/-- A number has a decimal of seventeen digits that reads back. -/
lemma exists_includes_seventeen (h0 : units ≠ 0) (hdvd : spacing units ∣ units) :
    ∃ c : ℕ, (readBack units).Includes (c * 10 ^ (firstExponent units - 16) * unitsPerOne) := by
  have hbelow : (0 : ℚ) < below units := by exact_mod_cast below_pos units
  have hspacing : (0 : ℚ) < spacing units := by exact_mod_cast spacing_pos units
  have hlength := lt_length_readBack units
  obtain ⟨hdown, hup⟩ := floor_grid units (firstExponent units - 16)
  generalize 4 * units * Nat.pow 10 (-(firstExponent units - 16)).toNat /
    (4 * unitsPerOne * Nat.pow 10 (firstExponent units - 16).toNat) = c at hdown hup
  have hstep : (10 : ℚ) ^ (firstExponent units - 16) * unitsPerOne ≤ units / 10 ^ 16 := by
    have hfirst := (firstExponent_bounds h0).1
    rw [zpow_sub₀ (by norm_num)]
    norm_num at hfirst ⊢
    linarith
  have hnext : ((c + 1 : ℕ) * 10 ^ (firstExponent units - 16) * unitsPerOne : ℚ) =
      c * 10 ^ (firstExponent units - 16) * unitsPerOne +
        10 ^ (firstExponent units - 16) * unitsPerOne := by
    push_cast
    ring
  -- Unless the point below the number reads back, the one above is less than the whole interval
  -- away from it.
  rcases lt_or_ge (units - below units / 4 : ℚ) (c * 10 ^ (firstExponent units - 16) * unitsPerOne)
    with hlow | hlow
  · exact ⟨c, (includes_iff h0 hdvd).2 ⟨.inl (by linarith), .inl (by linarith)⟩⟩
  · exact ⟨c + 1, (includes_iff h0 hdvd).2 ⟨.inl (by linarith), .inl (by linarith)⟩⟩

/-! ## The search -/

/-- The first of the numbers at which something is found is no later than a given one. -/
lemma exists_findSome?_range {α : Type} {f : ℕ → Option α} {a : α} (hk : k < m) (h : f k = some a) :
    ∃ j ≤ k, ∃ b, f j = some b ∧ (List.range m).findSome? f = some b := by
  induction m with
  | zero => omega
  | succ m ih =>
    rw [List.range_succ, List.findSome?_append]
    rcases Nat.lt_succ_iff_lt_or_eq.1 hk with hlt | rfl
    · obtain ⟨j, hj, b, hb, hfound⟩ := ih hlt
      exact ⟨j, hj, b, hb, by rw [hfound, Option.some_or]⟩
    · cases hfound : (List.range k).findSome? f with
      | none => exact ⟨k, le_rfl, a, h, by simp [h]⟩
      | some b =>
        obtain ⟨j, hj, hb⟩ := List.exists_of_findSome?_eq_some hfound
        exact ⟨j, (List.mem_range.1 hj).le, b, hb, by rw [Option.some_or]⟩

/-- Zeros at the end of a coefficient are dropped without a change of the value. -/
lemma withoutTrailingZeros_spec (k : ℕ) (n : Numeral) :
    (withoutTrailingZeros k n).value = n.value ∧
      n.exponent ≤ (withoutTrailingZeros k n).exponent := by
  induction k generalizing n with
  | zero => exact ⟨rfl, le_rfl⟩
  | succ k ih =>
    unfold withoutTrailingZeros
    split
    · next hzero =>
      obtain ⟨hvalue, hexponent⟩ := ih ⟨n.coefficient / 10, n.exponent + 1⟩
      refine ⟨hvalue.trans ?_, (by simp : n.exponent ≤ n.exponent + 1).trans hexponent⟩
      have hten : (n.coefficient : ℚ) = 10 * (n.coefficient / 10 : ℕ) := by
        exact_mod_cast (Nat.mul_div_cancel' (Nat.dvd_of_mod_eq_zero hzero.2)).symm
      rw [Numeral.value, Numeral.value, hten, zpow_add_one₀ (by norm_num)]
      ring
    · exact ⟨rfl, le_rfl⟩

/-- Any point that reads back is on a grid no coarser than the one that is found, whose point is
then the shortest decimal. -/
lemma exists_shortest_eq (h0 : units ≠ 0) (hdvd : spacing units ∣ units) (tie : DecimalTie)
    (hlow : firstExponent units - 16 ≤ power) (hhigh : power ≤ firstExponent units)
    (h : (readBack units).Includes (c * 10 ^ power * unitsPerOne)) :
    ∃ n, power ≤ n.exponent ∧ (readBack units).Includes (n.value * unitsPerOne) ∧
      shortest tie units = withoutTrailingZeros 17 n := by
  obtain ⟨k, hk⟩ := Int.eq_ofNat_of_zero_le (sub_nonneg.2 hhigh)
  obtain rfl : power = firstExponent units - k := by omega
  obtain ⟨first, hfirst⟩ := exists_onGrid? h0 hdvd tie h
  obtain ⟨j, hj, n, hn, hfound⟩ := exists_findSome?_range (m := 17)
    (f := fun k : ℕ => onGrid? tie units (firstExponent units - k)) (by omega) hfirst
  obtain ⟨hexponent, hincludes⟩ := includes_of_onGrid? hn
  refine ⟨n, by omega, hincludes, ?_⟩
  simp only [shortest, h0, if_false, hfound, Option.getD_some]

/-- The shortest decimal of a number reads back, and no coarser grid that is tried has a point that
does. -/
theorem shortest_spec (h0 : units ≠ 0) (hdvd : spacing units ∣ units) (tie : DecimalTie) :
    (readBack units).Includes ((shortest tie units).value * unitsPerOne) ∧
      ∀ (c : ℕ) (power : ℤ), firstExponent units - 16 ≤ power → power ≤ firstExponent units →
        (readBack units).Includes (c * 10 ^ power * unitsPerOne) →
          power ≤ (shortest tie units).exponent := by
  constructor
  · obtain ⟨c, hc⟩ := exists_includes_seventeen h0 hdvd
    obtain ⟨n, -, hincludes, heq⟩ := exists_shortest_eq h0 hdvd tie le_rfl (by omega) hc
    rwa [heq, (withoutTrailingZeros_spec 17 n).1]
  · intro c power hlow hhigh h
    obtain ⟨n, hexponent, -, heq⟩ := exists_shortest_eq h0 hdvd tie hlow hhigh h
    rw [heq]
    exact hexponent.trans (withoutTrailingZeros_spec 17 n).2

/-- The shortest decimal has no more than seventeen digits. -/
lemma le_exponent_shortest (h0 : units ≠ 0) (hdvd : spacing units ∣ units) (tie : DecimalTie) :
    firstExponent units - 16 ≤ (shortest tie units).exponent := by
  obtain ⟨c, hc⟩ := exists_includes_seventeen h0 hdvd
  exact (shortest_spec h0 hdvd tie).2 c _ le_rfl (by omega) hc

/-- **The shortest decimal.**  The shortest decimal of a number of the format other than zero is
rounded to this number. -/
theorem roundsTo_shortest (h0 : units ≠ 0) (hdvd : spacing units ∣ units) (tie : DecimalTie) :
    RoundsTo ((shortest tie units).value * unitsPerOne) units :=
  (roundsTo_iff_includes h0 hdvd).2 (shortest_spec h0 hdvd tie).1

end Binary64

end TimingBoard
