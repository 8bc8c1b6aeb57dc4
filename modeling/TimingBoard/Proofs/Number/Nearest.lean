import Mathlib.Algebra.Order.Floor.Semifield
import Mathlib.Data.Rat.Floor
import TimingBoard.Proofs.Number.Rounding

/-!
# Rounding exact magnitudes

The exact result of a calculation is a rational number of units.  It is rounded to the nearest
multiple of its spacing, and half way to the even one.  So the error is at most half a spacing,
which is the 2 ^ 53rd part of a magnitude with 53 significant bits, and a number of the format is
not changed.
-/

namespace TimingBoard.Binary64

variable {num den units other n m e : ℕ} {q : ℚ} {negative : Bool}

/-! ## Whole numbers -/

/-- A whole number is nearest to a number, and it is even if another one is equally near. -/
def IsNearest (q : ℚ) (n : ℕ) : Prop :=
  |q - n| < 1 / 2 ∨ |q - n| = 1 / 2 ∧ n % 2 = 0

lemma IsNearest.abs_sub_le (h : IsNearest q n) : |q - n| ≤ 1 / 2 := by
  rcases h with hlt | ⟨heq, -⟩
  · exact hlt.le
  · exact heq.le

lemma IsNearest.ge (hn : IsNearest q n) (hm : IsNearest q m) : m ≤ n := by
  by_contra! hlt
  have hnext : (n : ℚ) + 1 ≤ m := by exact_mod_cast hlt
  obtain ⟨hnlow, hnhigh⟩ := abs_le.1 hn.abs_sub_le
  obtain ⟨hmlow, hmhigh⟩ := abs_le.1 hm.abs_sub_le
  -- Both are half a unit away, so both would be even, although one follows the other.
  have hsucc : m = n + 1 := by
    have hle : (m : ℚ) ≤ n + 1 := by linarith
    have hle : m ≤ n + 1 := by exact_mod_cast hle
    omega
  have hndist : |q - n| = 1 / 2 := by
    rw [abs_of_nonneg] <;> linarith
  have hmdist : |q - m| = 1 / 2 := by
    rw [abs_of_nonpos] <;> linarith
  have hneven : n % 2 = 0 := (hn.resolve_left hndist.not_lt).2
  have hmeven : m % 2 = 0 := (hm.resolve_left hmdist.not_lt).2
  omega

/-- Only one whole number is nearest. -/
lemma IsNearest.unique (hn : IsNearest q n) (hm : IsNearest q m) : n = m :=
  le_antisymm (hm.ge hn) (hn.ge hm)

lemma isNearest_nearestQuotient (num : ℕ) (hden : 0 < den) :
    IsNearest (num / den) (nearestQuotient num den) := by
  have hpos : (0 : ℚ) < den := by exact_mod_cast hden
  have hsplit : (num : ℚ) / den = (num / den : ℕ) + (num % den : ℕ) / den := by
    rw [div_eq_iff hpos.ne', add_mul, div_mul_cancel₀ _ hpos.ne', mul_comm]
    exact_mod_cast (Nat.div_add_mod num den).symm
  have hrest : (0 : ℚ) ≤ (num % den : ℕ) / den := by positivity
  have hlt : ((num % den : ℕ) : ℚ) / den < 1 := by
    rw [div_lt_one hpos]
    exact_mod_cast Nat.mod_lt num hden
  have hhalf : ((num % den : ℕ) : ℚ) / den < 1 / 2 ↔ 2 * (num % den) < den := by
    rw [div_lt_div_iff₀ hpos two_pos, one_mul, mul_comm]
    exact_mod_cast Iff.rfl
  have hmiddle : ((num % den : ℕ) : ℚ) / den = 1 / 2 ↔ 2 * (num % den) = den := by
    rw [div_eq_div_iff hpos.ne' two_ne_zero, one_mul, mul_comm]
    exact_mod_cast Iff.rfl
  rw [hsplit]
  unfold nearestQuotient IsNearest
  generalize num / den = k at *
  generalize ((num % den : ℕ) : ℚ) / den = r at *
  simp only
  split
  · next hdown =>
    rw [add_sub_cancel_left, abs_of_nonneg hrest]
    exact hdown.imp hhalf.2 (And.imp_left hmiddle.2)
  · next hup =>
    rw [not_or, ← hhalf, not_lt, not_and, ← hmiddle] at hup
    rw [Nat.cast_add_one, add_sub_add_left_eq_sub, abs_of_neg (by linarith)]
    rcases hup.1.lt_or_eq with hgt | heq
    · exact .inl (by linarith)
    · have hodd := hup.2 heq.symm
      exact .inr ⟨by linarith, by omega⟩

/-- A quotient is rounded to the nearest whole number. -/
lemma nearestQuotient_eq_iff (hden : 0 < den) : nearestQuotient num den = n ↔
    IsNearest (num / den) n := by
  constructor
  · rintro rfl
    exact isNearest_nearestQuotient num hden
  · exact fun h => (isNearest_nearestQuotient num hden).unique h

/-! ## Magnitudes -/

/-- An exact magnitude is rounded to a number of units, if there is no limit to the numbers. -/
structure RoundsTo (q : ℚ) (units : ℕ) : Prop where
  nonneg : 0 ≤ q
  nearest : ∃ n, IsNearest (q / spacing ⌊q⌋₊) n ∧ units = n * spacing ⌊q⌋₊

lemma roundsTo_nearestQuotient (num : ℕ) (hden : 0 < den) : RoundsTo (num / den)
    (nearestQuotient num (den * spacing (num / den)) * spacing (num / den)) := by
  refine ⟨by positivity, ?_⟩
  rw [Nat.floor_div_eq_div]
  refine ⟨_, ?_, rfl⟩
  rw [div_div, ← Nat.cast_mul]
  exact isNearest_nearestQuotient num (Nat.mul_pos hden (spacing_pos _))

lemma RoundsTo.unique (h : RoundsTo q units) (hother : RoundsTo q other) : units = other := by
  obtain ⟨-, n, hn, rfl⟩ := h
  obtain ⟨-, m, hm, rfl⟩ := hother
  rw [hn.unique hm]

/-- The number that a quotient is rounded to is finite if it is below the first one that is not. -/
theorem round_eq_finite_iff (hden : 0 < den) : round negative num den = .finite negative units ↔
    RoundsTo (num / den) units ∧ units < overflow := by
  have hround := roundsTo_nearestQuotient num hden
  unfold round
  simp only
  split
  · next hlt =>
    constructor
    · intro heq
      obtain ⟨-, rfl⟩ := Binary64.finite.inj heq
      exact ⟨hround, hlt⟩
    · exact fun h => congrArg _ (hround.unique h.1)
  · next hge =>
    refine iff_of_false (fun heq => by cases heq) ?_
    exact fun h => hge ((hround.unique h.1).trans_lt h.2)

lemma exists_eq_div (hq : 0 ≤ q) : ∃ num den : ℕ, 0 < den ∧ q = num / den := by
  refine ⟨q.num.toNat, q.den, q.den_pos, ?_⟩
  have hnum : ((q.num.toNat : ℤ) : ℚ) = q.num := by rw [Int.toNat_of_nonneg (Rat.num_nonneg.2 hq)]
  rw [← Int.cast_natCast, hnum, Rat.num_div_den]

/-- Every magnitude is rounded to a number of units. -/
lemma exists_roundsTo (hq : 0 ≤ q) : ∃ units, RoundsTo q units := by
  obtain ⟨num, den, hden, rfl⟩ := exists_eq_div hq
  exact ⟨_, roundsTo_nearestQuotient num hden⟩

/-- A quotient whose rounded magnitude has room is finite. -/
lemma round_eq_of_roundsTo (hden : 0 < den) (h : RoundsTo (num / den) units)
    (hlt : units < overflow) :
    round negative num den = .finite negative units :=
  (round_eq_finite_iff hden).2 ⟨h, hlt⟩

namespace RoundsTo

/-- A rounded magnitude is a number of the format. -/
lemma spacing_dvd (h : RoundsTo q units) : spacing units ∣ units := by
  obtain ⟨num, den, hden, rfl⟩ := exists_eq_div h.nonneg
  rw [h.unique (roundsTo_nearestQuotient num hden)]
  obtain ⟨e, he⟩ : ∃ e, spacing (num / den) = 2 ^ e := ⟨_, Nat.pow_eq⟩
  have hcount := nearestQuotient_spacing_le num den
  rw [he] at hcount ⊢
  exact spacing_dvd_mul hcount e

/-- The error of a rounded magnitude is at most half a spacing. -/
lemma abs_sub_le (h : RoundsTo q units) : |q - units| ≤ spacing ⌊q⌋₊ / 2 := by
  obtain ⟨-, n, hn, rfl⟩ := h
  have hpos : (0 : ℚ) < spacing ⌊q⌋₊ := by exact_mod_cast spacing_pos _
  have hscale : q - (n * spacing ⌊q⌋₊ : ℕ) = (q / spacing ⌊q⌋₊ - n) * spacing ⌊q⌋₊ := by
    rw [sub_mul, div_mul_cancel₀ _ hpos.ne', Nat.cast_mul]
  calc |q - (n * spacing ⌊q⌋₊ : ℕ)| = |q / spacing ⌊q⌋₊ - n| * spacing ⌊q⌋₊ := by
        rw [hscale, abs_mul, abs_of_pos hpos]
    _ ≤ 1 / 2 * spacing ⌊q⌋₊ := mul_le_mul_of_nonneg_right hn.abs_sub_le hpos.le
    _ = spacing ⌊q⌋₊ / 2 := by ring

/-- Rounding at most doubles a magnitude. -/
lemma le_two_mul (h : RoundsTo q units) : (units : ℚ) ≤ 2 * q := by
  obtain ⟨hq, n, hn, rfl⟩ := h
  have hpos : (0 : ℚ) < spacing ⌊q⌋₊ := by exact_mod_cast spacing_pos _
  have herror := abs_le.1 hn.abs_sub_le
  have hcount : (n : ℚ) ≤ 2 * (q / spacing ⌊q⌋₊) := by
    rcases Nat.eq_zero_or_pos n with rfl | hsome
    · rw [Nat.cast_zero]
      positivity
    · have hone : (1 : ℚ) ≤ n := by exact_mod_cast hsome
      linarith
  rw [Nat.cast_mul]
  calc (n : ℚ) * spacing ⌊q⌋₊ ≤ 2 * (q / spacing ⌊q⌋₊) * spacing ⌊q⌋₊ :=
        mul_le_mul_of_nonneg_right hcount hpos.le
    _ = 2 * q := by rw [mul_assoc, div_mul_cancel₀ _ hpos.ne']

/-- The error of a rounded magnitude below a power of two. -/
lemma abs_sub_le_of_lt (h : RoundsTo q units) (hlt : q < 2 ^ (e + 53)) :
    |q - units| ≤ 2 ^ e / 2 := by
  have hfloor : ⌊q⌋₊ < 2 ^ (e + 53) := (Nat.floor_lt h.nonneg).2 (by exact_mod_cast hlt)
  have hspacing : (spacing ⌊q⌋₊ : ℚ) ≤ 2 ^ e := by exact_mod_cast spacing_le hfloor
  exact h.abs_sub_le.trans (by linarith)

/-- The error of a rounded magnitude with 53 significant bits. -/
lemma abs_sub_le_of_le (h : RoundsTo q units) (hle : 2 ^ 52 ≤ q) : |q - units| ≤ q / 2 ^ 53 := by
  have hfloor : 2 ^ 52 ≤ ⌊q⌋₊ := Nat.le_floor (by exact_mod_cast hle)
  have hspacing : (2 ^ 52 * spacing ⌊q⌋₊ : ℚ) ≤ ⌊q⌋₊ := by exact_mod_cast spacing_mul_le hfloor
  have hbelow : (⌊q⌋₊ : ℚ) ≤ q := Nat.floor_le h.nonneg
  exact h.abs_sub_le.trans (by linarith)

/-- A magnitude is rounded to less than a power of two exactly if it is less than half a spacing
below it. -/
lemma lt_iff (h : RoundsTo q units) (e : ℕ) : units < 2 ^ (e + 53) ↔
    2 * q < (2 ^ 54 - 1) * 2 ^ e := by
  obtain ⟨num, den, hden, rfl⟩ := exists_eq_div h.nonneg
  have hpos : (0 : ℚ) < den := by exact_mod_cast hden
  have hcoefficient : ((2 ^ 54 - 1 : ℕ) : ℚ) = 2 ^ 54 - 1 := by norm_num
  rw [h.unique (roundsTo_nearestQuotient num hden), nearestQuotient_mul_spacing_lt_iff hden,
    ← mul_div_assoc, div_lt_iff₀ hpos, ← hcoefficient]
  exact_mod_cast Iff.rfl

end RoundsTo

/-- A number of the format is rounded to itself. -/
lemma roundsTo_self (h : spacing units ∣ units) : RoundsTo units units := by
  have hpos : (0 : ℚ) < spacing units := by exact_mod_cast spacing_pos _
  refine ⟨by positivity, ?_⟩
  rw [Nat.floor_natCast]
  obtain ⟨n, hn⟩ := h
  refine ⟨n, .inl ?_, by rw [mul_comm, ← hn]⟩
  have hquotient : (units : ℚ) / spacing units = n := by
    rw [div_eq_iff hpos.ne', mul_comm]
    exact_mod_cast hn
  rw [hquotient, sub_self, abs_zero]
  norm_num

end TimingBoard.Binary64
