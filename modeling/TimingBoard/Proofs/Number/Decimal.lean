import Mathlib.Algebra.Order.Field.Rat
import Mathlib.Data.Rat.Cast.Order
import TimingBoard.Number.Numeral
import TimingBoard.Proofs.Number.Rounding
import TimingBoard.Proofs.Reply.Grammar

/-!
# Decimals

A decimal is one or more digits, and perhaps a point with any number of digits behind it.  It is
read as the binary64 number nearest to its value, and this number is finite exactly if the value is
below 2 ^ 1024 - 2 ^ 970.
-/

namespace TimingBoard

/-- A decimal, by the digits in front of its point and, if there is a point, those behind it. -/
structure Decimal where
  whole : Text
  fraction : Option Text
  whole_ne_nil : whole ≠ []
  isDigit : ∀ c ∈ whole ++ fraction.getD [], c.isDigit = true

namespace Decimal

variable (d : Decimal)

/-- How a decimal is spelled. -/
def text : Text :=
  match d.fraction with
  | none => d.whole
  | some digits => d.whole ++ '.' :: digits

/-- The number that the digits of a decimal are without the point. -/
def coefficient : Nat := Natural.value (d.whole ++ d.fraction.getD [])

/-- The number of digits behind the point. -/
def places : Nat := (d.fraction.getD []).length

/-- The value of a decimal. -/
def value : ℚ := d.coefficient / 10 ^ d.places

lemma isDigit_of_mem_whole {c : Char} (hc : c ∈ d.whole) : c.isDigit = true :=
  d.isDigit c (List.mem_append_left _ hc)

/-- A decimal is made of digits and points. -/
lemma isDigit_of_mem_text {c : Char} (hc : c ∈ d.text) : c.isDigit = true ∨ c = '.' := by
  have hdigit := d.isDigit c
  unfold text at hc
  split at hc
  · exact .inl (d.isDigit_of_mem_whole hc)
  · next digits hfraction =>
    rw [hfraction] at hdigit
    rcases List.mem_append.1 hc with hwhole | hbehind
    · exact .inl (d.isDigit_of_mem_whole hwhole)
    · rcases List.mem_cons.1 hbehind with hpoint | hmem
      · exact .inr hpoint
      · exact .inl (hdigit (List.mem_append_right _ hmem))

/-- A decimal starts with a digit. -/
lemma exists_text_eq_cons : ∃ c rest, d.text = c :: rest ∧ c.isDigit = true := by
  obtain ⟨c, rest, hwhole⟩ := List.exists_cons_of_ne_nil d.whole_ne_nil
  have hdigit : c.isDigit = true := d.isDigit_of_mem_whole (by simp [hwhole])
  unfold text
  split
  · exact ⟨c, rest, hwhole, hdigit⟩
  · exact ⟨c, _, by rw [hwhole, List.cons_append], hdigit⟩

/-- A decimal is a magnitude that is written in ASCII digits. -/
lemma isMagnitude_text : Payload.IsMagnitude d.text := by
  have hdigits : ∀ c ∈ d.whole ++ d.fraction.getD [], Text.isDecimalDigit c = true := fun c hc =>
    Text.isDecimalDigit_of_isDigit (d.isDigit c hc)
  refine ⟨d.whole, ⟨d.whole_ne_nil, fun c hc => hdigits c (List.mem_append_left _ hc)⟩, ?_⟩
  unfold text
  split
  · exact .inl rfl
  · next digits hfraction =>
    rw [hfraction] at hdigits
    exact .inr ⟨digits, fun c hc => hdigits c (List.mem_append_right _ hc), rfl⟩

/-- The numeral of a decimal has its coefficient, and an exponent for the places behind the
point. -/
lemma read?_text : Numeral.read? d.text = some ⟨d.coefficient, -(d.places : Int)⟩ := by
  have hwhole : ∀ c ∈ d.whole, c.isDigit = true := fun c hc => d.isDigit_of_mem_whole hc
  have hdigits := d.isDigit
  unfold Numeral.read? text coefficient places
  cases hfraction : d.fraction with
  | none =>
    obtain ⟨htake, hdrop⟩ := (Payload.stopsAt_nil (p := Char.isDigit)).span_append hwhole
    rw [List.append_nil] at htake hdrop
    simp [htake, hdrop, Numeral.readExponent?, d.whole_ne_nil]
  | some digits =>
    rw [hfraction] at hdigits
    have hfirst : Payload.StopsAt Char.isDigit ('.' :: digits) := Payload.stopsAt_cons.2 (by decide)
    obtain ⟨htake, hdrop⟩ := hfirst.span_append hwhole
    obtain ⟨htake', hdrop'⟩ := (Payload.stopsAt_nil (p := Char.isDigit)).span_append
      fun c hc => hdigits c (List.mem_append_right _ hc)
    simp only [Option.getD_some, List.append_nil] at htake' hdrop'
    simp [htake, hdrop, htake', hdrop', Numeral.readExponent?, d.whole_ne_nil]

/-- A decimal is read as the number nearest to its value. -/
lemma binary64_read?_text :
    Binary64.read? d.text = some (.ofDecimal false d.coefficient (-(d.places : Int))) := by
  obtain ⟨c, rest, htext, hdigit⟩ := d.exists_text_eq_cons
  have hread : Binary64.readMagnitude? false d.text =
      some (.ofDecimal false d.coefficient (-(d.places : Int))) := by
    simp [Binary64.readMagnitude?, d.read?_text]
  unfold Binary64.read?
  split
  · next hminus =>
    obtain rfl : c = '-' := by simpa [htext] using congrArg List.head? hminus
    cases hdigit
  · next hplus =>
    obtain rfl : c = '+' := by simpa [htext] using congrArg List.head? hplus
    cases hdigit
  · exact hread

/-- The number that a decimal is read as is finite exactly if its value is below the limit. -/
theorem isFinite_iff :
    (Binary64.ofDecimal false d.coefficient (-(d.places : Int))).isFinite = true ↔
    d.value < 2 ^ 1024 - 2 ^ 970 := by
  have hlimit : (Binary64.limit : ℚ) = 2 ^ 1024 - 2 ^ 970 := by
    rw [Binary64.limit, Nat.cast_sub (by decide +kernel), Nat.cast_pow, Nat.cast_pow,
      Nat.cast_ofNat]
  have hpow : (0 : ℚ) < 10 ^ d.places := by positivity
  rw [Binary64.isFinite_ofDecimal_iff, ← hlimit, value, div_lt_iff₀ hpow]
  exact_mod_cast Iff.rfl

end Decimal

end TimingBoard
