import TimingBoard.Number.Shortest
import TimingBoard.Proofs.Number.Rounding

/-!
# Shortest decimals are below the limit

A number of the format is a whole multiple of its spacing.  The decimals that read back as it are at
most half a spacing above it, and strictly less for the greatest number, whose coefficient is odd.
So the shortest decimal of a finite number is below the limit from which on decimals are read as
infinite.
-/

namespace TimingBoard.Binary64

variable {num den units e : Nat} {negative : Bool} {tie : DecimalTie} {power : Int} {n : Numeral}

/-! ## Numbers of the format -/

/-- A number of the format: a finite one is below the overflow, and a whole multiple of its
spacing. -/
def IsRepresentable (x : Binary64) : Prop :=
  ∀ negative units, x = .finite negative units → units < overflow ∧ spacing units ∣ units

lemma isRepresentable_finite : (finite negative units).IsRepresentable ↔
    units < overflow ∧ spacing units ∣ units := by
  constructor
  · exact fun h => h negative units rfl
  · rintro h _ _ heq
    obtain ⟨-, rfl⟩ := Binary64.finite.inj heq
    exact h

/-- Every magnitude is rounded to a number of the format. -/
theorem isRepresentable_round : (round negative num den).IsRepresentable := by
  unfold round
  simp only
  split
  · next hlt =>
    refine isRepresentable_finite.2 ⟨hlt, ?_⟩
    obtain ⟨e, he⟩ : ∃ e, spacing (num / den) = 2 ^ e := ⟨_, Nat.pow_eq⟩
    have hcount := nearestQuotient_spacing_le num den
    rw [he] at hcount ⊢
    exact spacing_dvd_mul hcount e
  · rintro _ _ heq
    cases heq

lemma isRepresentable_zero : (finite negative 0).IsRepresentable := by
  refine isRepresentable_finite.2 ⟨?_, Nat.dvd_zero _⟩
  rw [overflow_eq]
  positivity

/-- Every decimal is read as a number of the format. -/
theorem isRepresentable_ofDecimal {e : Int} : (ofDecimal negative num e).IsRepresentable := by
  unfold ofDecimal
  simp only
  split_ifs
  · exact isRepresentable_zero
  · rintro _ _ heq
    cases heq
  · exact isRepresentable_round
  · exact isRepresentable_round

/-! ## Decimals that read back -/

/-- Half a spacing above a number is at most the threshold, and below it if the coefficient of the
number is even. -/
lemma half_spacing_above (hlt : units < overflow) (hdvd : spacing units ∣ units) :
    4 * units + 2 * spacing units ≤ 4 * threshold ∧
      (units / spacing units % 2 = 0 → 4 * units + 2 * spacing units < 4 * threshold) := by
  rw [overflow_eq, show 2098 = 2044 + 54 from rfl] at hlt
  rw [threshold]
  generalize 2044 = e at hlt ⊢
  have hpos : 0 < 2 ^ e := Nat.two_pow_pos e
  have htwice : 2 ^ (e + 1) = 2 * 2 ^ e := by ring
  have hwhole : 2 ^ (e + 54) = 2 ^ 54 * 2 ^ e := by ring
  have hhalf : 2 ^ (e + 53) = 2 ^ 53 * 2 ^ e := by ring
  rcases lt_or_ge units (2 ^ (e + 53)) with hlow | hlow
  · have hsmall : spacing units ≤ 2 ^ e := spacing_le hlow
    have hbelow : 4 * units + 2 * spacing units < 4 * ((2 ^ 54 - 1) * 2 ^ e) := by omega
    exact ⟨hbelow.le, fun _ => hbelow⟩
  · have hlast : spacing units = 2 * 2 ^ e := (spacing_eq hlow hlt).trans htwice
    obtain ⟨coefficient, hcoefficient⟩ := hdvd
    rw [hlast] at hcoefficient ⊢
    have hquotient : units / (2 * 2 ^ e) = coefficient :=
      Nat.div_eq_of_eq_mul_right (by omega) hcoefficient
    have hcount : coefficient < 2 ^ 53 := by
      refine Nat.lt_of_mul_lt_mul_left (a := 2 * 2 ^ e) ?_
      omega
    have hbound {most : Nat} (h : coefficient ≤ most) : units ≤ 2 * 2 ^ e * most :=
      hcoefficient.le.trans (Nat.mul_le_mul_left _ h)
    rw [hquotient]
    refine ⟨?_, fun heven => ?_⟩
    · have hmost := hbound (show coefficient ≤ 2 ^ 53 - 1 by omega)
      omega
    · have hmost := hbound (show coefficient ≤ 2 ^ 53 - 2 by omega)
      omega

/-- A decimal that reads back as a number is below the threshold, in quarters of a unit. -/
lemma lt_of_contains {point : Nat} (hlt : units < overflow) (hdvd : spacing units ∣ units)
    (hden : 0 < den) (h : (readBack units).contains point den = true) :
    point < 4 * threshold * den := by
  obtain ⟨hmost, heven⟩ := half_spacing_above hlt hdvd
  unfold ReadBack.contains at h
  split at h
  · next hends =>
    have hpoint : point ≤ (4 * units + 2 * spacing units) * den := by
      simp only [Bool.and_eq_true, decide_eq_true_eq] at h
      exact h.2
    have heven := heven (of_decide_eq_true hends)
    exact hpoint.trans_lt (Nat.mul_lt_mul_of_pos_right heven hden)
  · have hpoint : point < (4 * units + 2 * spacing units) * den := by
      simp only [Bool.and_eq_true, decide_eq_true_eq] at h
      exact h.2
    exact hpoint.trans_le (Nat.mul_le_mul_right den hmost)

/-! ## Grids -/

/-- A decimal that is taken from a grid reads back. -/
lemma contains_of_onGrid? (h : onGrid? tie units power = some n) : n.exponent = power ∧
    (readBack units).contains (n.coefficient * (4 * unitsPerOne * Nat.pow 10 power.toNat))
      (Nat.pow 10 (-power).toNat) = true := by
  unfold onGrid? at h
  simp only at h
  split at h
  · cases h
  · next hdown _ =>
    obtain rfl := Option.some.inj h
    exact ⟨rfl, hdown⟩
  · next _ hup =>
    obtain rfl := Option.some.inj h
    exact ⟨rfl, hup⟩
  · next hdown hup =>
    obtain rfl := Option.some.inj h
    refine ⟨rfl, ?_⟩
    simp only
    split
    · exact hdown
    · exact hup

end TimingBoard.Binary64

namespace TimingBoard

/-- A decimal number is below the limit from which on decimals are read as infinite. -/
def Numeral.IsBelow (n : Numeral) : Prop :=
  n.coefficient * 10 ^ n.exponent.toNat < Binary64.limit * 10 ^ (-n.exponent).toNat

namespace Binary64

variable {units : Nat} {tie : DecimalTie} {power : Int} {n : Numeral}

/-- A decimal that is taken from a grid for a number of the format is below the limit. -/
lemma isBelow_of_onGrid? (hlt : units < overflow) (hdvd : spacing units ∣ units)
    (h : onGrid? tie units power = some n) : n.IsBelow := by
  obtain ⟨hpower, hcontains⟩ := contains_of_onGrid? h
  have hden : 0 < 10 ^ (-power).toNat := Nat.pow_pos (by decide)
  have hpoint := lt_of_contains hlt hdvd hden hcontains
  rw [Nat.pow_eq, threshold_eq] at hpoint
  unfold Numeral.IsBelow
  rw [hpower]
  refine Nat.lt_of_mul_lt_mul_left (a := 4 * unitsPerOne) ?_
  linarith

/-- A zero at the end of the coefficient makes no difference. -/
lemma isBelow_dropZero (h : n.IsBelow) (hzero : n.coefficient % 10 = 0) :
    (⟨n.coefficient / 10, n.exponent + 1⟩ : Numeral).IsBelow := by
  obtain ⟨coefficient, exponent⟩ := n
  unfold Numeral.IsBelow at h ⊢
  simp only at h hzero ⊢
  rcases lt_or_ge exponent 0 with hneg | hpos
  · obtain ⟨k, rfl⟩ : ∃ k : Nat, exponent = -(k + 1 : Int) := ⟨(-exponent - 1).toNat, by omega⟩
    rw [show (-(k + 1 : Int)).toNat = 0 by omega,
      show (-(-(k + 1 : Int))).toNat = k + 1 by omega] at h
    rw [show (-(k + 1 : Int) + 1).toNat = 0 by omega,
      show (-(-(k + 1 : Int) + 1)).toNat = k by omega]
    rw [pow_succ, ← mul_assoc] at h
    omega
  · obtain ⟨k, rfl⟩ := Int.eq_ofNat_of_zero_le hpos
    have hwhole : coefficient / 10 * 10 ^ (k + 1) = coefficient * 10 ^ k := by
      rw [pow_succ', ← mul_assoc, Nat.div_mul_cancel (Nat.dvd_of_mod_eq_zero hzero)]
    rw [show ((k : Int) + 1).toNat = k + 1 by omega, show (-((k : Int) + 1)).toNat = 0 by omega,
      hwhole]
    rwa [show (k : Int).toNat = k by omega, show (-(k : Int)).toNat = 0 by omega] at h

lemma isBelow_withoutTrailingZeros (h : n.IsBelow) (k : Nat) :
    (withoutTrailingZeros k n).IsBelow := by
  induction k generalizing n with
  | zero => exact h
  | succ k ih =>
    unfold withoutTrailingZeros
    split
    · next hzero => exact ih (isBelow_dropZero h hzero.2)
    · exact h

/-- The shortest decimal of a number of the format is below the limit. -/
theorem isBelow_shortest (hlt : units < overflow) (hdvd : spacing units ∣ units) :
    (shortest tie units).IsBelow := by
  have hzero : (⟨0, 0⟩ : Numeral).IsBelow := by
    simpa [Numeral.IsBelow] using limit_pos
  unfold shortest
  split
  · exact hzero
  · refine isBelow_withoutTrailingZeros ?_ 17
    cases hfound : (List.range 17).findSome? fun k : Nat =>
      onGrid? tie units (firstExponent units - k) with
    | none => exact hzero
    | some n =>
      obtain ⟨k, -, hgrid⟩ := List.exists_of_findSome?_eq_some hfound
      exact isBelow_of_onGrid? hlt hdvd hgrid

end Binary64

end TimingBoard
