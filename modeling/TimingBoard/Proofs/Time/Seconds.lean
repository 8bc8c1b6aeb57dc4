import TimingBoard.Proofs.Number.Rounding
import TimingBoard.Time.Span

/-!
# Spans from seconds

A number of seconds is a span if it is finite, not negative and not too large.  The span is the
nearest number of nanoseconds, so that no time comes of what is at most half a nanosecond.
-/

namespace TimingBoard

namespace Binary64

variable {num den : Nat}

/-- A quotient is rounded to zero exactly if it is at most a half. -/
lemma nearestQuotient_eq_zero_iff (hden : 0 < den) : nearestQuotient num den = 0 ↔
    2 * num ≤ den := by
  rcases lt_or_ge num den with hlt | hge
  · unfold nearestQuotient
    simp only [Nat.div_eq_of_lt hlt, Nat.mod_eq_of_lt hlt, Nat.zero_mod, and_true]
    split <;> omega
  · have hone : 1 ≤ num / den := (Nat.one_le_div_iff hden).2 hge
    have hlow := (nearestQuotient_bounds num den).1
    omega

/-- A number of seconds that is at most half a nanosecond, and not negative unless it is a zero. -/
def IsNoTime (x : Binary64) : Prop :=
  ∃ negative units, x = .finite negative units ∧ 2 * (units * nanosPerSecond) ≤ unitsPerOne

/-- Either of the two zeros. -/
def IsZero (x : Binary64) : Prop :=
  ∃ negative, x = .finite negative 0

end Binary64

namespace Span

open Binary64

variable {x : Binary64} {s t : Span}

lemma eq_of_nanos_eq (h : s.nanos = t.nanos) : s = t := by
  obtain ⟨_, _⟩ := s
  obtain ⟨_, _⟩ := t
  simpa using h

lemma eq_zero_iff : s = .zero ↔ s.nanos = 0 := by
  constructor
  · rintro rfl
    rfl
  · exact fun h => eq_of_nanos_eq h

/-- A span is the nearest number of nanoseconds to a number of seconds that is finite and not
negative. -/
lemma ofBinary64_eq_ok_iff : ofBinary64 x = .ok s ↔ ∃ negative units, x = .finite negative units ∧
    (negative = true → units = 0) ∧
      s.nanos = nearestQuotient (units * nanosPerSecond) unitsPerOne := by
  have hnegative (negative : Bool) (units : Nat) : (finite negative units).lt .zero = true ↔
      ¬ (negative = true → units = 0) := by
    cases negative
    · simp [lt, rank?, Binary64.zero]
    · simp [lt, rank?, Binary64.zero, Nat.pos_iff_ne_zero]
  unfold ofBinary64
  -- The number of units in one is too large to be looked at.
  generalize unitsPerOne = one
  constructor
  · intro h
    split at h
    · cases h
    · next hnot =>
      cases x with
      | nan => cases h
      | infinite negative => cases h
      | finite negative units =>
        simp only at h
        split at h
        · have hnanos := congrArg nanos (Except.ok.inj h)
          exact ⟨negative, units, rfl, not_not.1 (mt (hnegative negative units).2 hnot),
            hnanos.symm⟩
        · cases h
  · rintro ⟨negative, units, rfl, hsign, hnanos⟩
    have hlimit : nearestQuotient (units * nanosPerSecond) one < tooManyNanos :=
      hnanos ▸ s.lt_limit
    rw [if_neg fun hlt => (hnegative negative units).1 hlt hsign]
    exact (dif_pos hlimit).trans (congrArg Except.ok (eq_of_nanos_eq hnanos.symm))

/-- No time comes of a number of seconds exactly if it is at most half a nanosecond. -/
lemma eq_zero_iff_of_ofBinary64 (h : ofBinary64 x = .ok s) : s = .zero ↔ x.IsNoTime := by
  obtain ⟨negative, units, rfl, -, hnanos⟩ := ofBinary64_eq_ok_iff.1 h
  rw [eq_zero_iff, hnanos, nearestQuotient_eq_zero_iff unitsPerOne_pos]
  constructor
  · exact fun hsmall => ⟨negative, units, rfl, hsmall⟩
  · rintro ⟨_, _, heq, hsmall⟩
    obtain ⟨-, rfl⟩ := Binary64.finite.inj heq
    exact hsmall

end Span

end TimingBoard
