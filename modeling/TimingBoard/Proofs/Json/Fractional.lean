import TimingBoard.Proofs.Json.Literals
import TimingBoard.Proofs.Number.Grids
import TimingBoard.Proofs.Number.Plain

/-!
# Numbers in settings files

A number that is not whole, or is marked as such, is written as digits with a point or as one digit,
more digits and an exponent.  Each layout is the literal of a number, and as long as the digits fit
64 bits, reading it gives back the digits and the power of ten that were written.
-/

namespace TimingBoard

/-! ## Digits -/

namespace Natural

/-- The number that a run of digits extends a given one to. -/
def extend (n : ℕ) (t : Text) : ℕ :=
  t.foldl (fun n c => 10 * n + (c.toNat - '0'.toNat)) n

lemma extend_append (n : ℕ) (t u : Text) : extend n (t ++ u) = extend (extend n t) u :=
  List.foldl_append

lemma le_extend (n : ℕ) (t : Text) : n ≤ extend n t := by
  induction t generalizing n with
  | nil => exact le_rfl
  | cons c t ih => exact le_trans (by omega) (ih (10 * n + (c.toNat - '0'.toNat)))

end Natural

namespace Json

variable {t rest : Text} {exponent : ℤ} {m k n : ℕ}

/-- All digits of a number that fits 64 bits are taken. -/
lemma gather_eq (h : Natural.extend n t < UInt64.size) :
    gather n t = (Natural.extend n t, t.length) := by
  induction t generalizing n with
  | nil => rfl
  | cons c t ih =>
    have hnext : Natural.extend (10 * n + (c.toNat - '0'.toNat)) t < UInt64.size := h
    have hfits : 10 * n + (c.toNat - '0'.toNat) < UInt64.size :=
      (Natural.le_extend _ t).trans_lt hnext
    unfold gather
    simp only [hfits, if_true, ih hnext]
    rfl

/-! ## Literals with an exponent -/

/-- What follows the digits of a number is an exponent, or there is none and it counts as zero. -/
structure IsExponent (t : Text) (exponent : ℤ) : Prop where
  read : Numeral.readExponent? t = some exponent
  whole : exponentPart? t = some (t, [])

lemma isExponent_nil : IsExponent [] 0 := ⟨rfl, rfl⟩

/-- An exponent is written with its sign. -/
lemma isExponent_sign (exponent : ℤ) :
    IsExponent ('e' :: (if exponent < 0 then ['-'] else ['+']) ++
      Natural.digits exponent.natAbs) exponent := by
  have hne := Natural.digits_ne_nil exponent.natAbs
  have hdigit : ∀ c ∈ Natural.digits exponent.natAbs, c.isDigit = true :=
    fun _ => Natural.isDigit_of_mem_digits
  have hall : (Natural.digits exponent.natAbs).all Char.isDigit = true := List.all_eq_true.2 hdigit
  have hvalue := Natural.value_digits exponent.natAbs
  have hrun := digits?_of_digits hdigit hne Payload.stopsAt_nil
  generalize Natural.digits exponent.natAbs = run at *
  rw [List.append_nil] at hrun
  constructor
  · split
    · next hneg =>
      simp only [List.cons_append, List.nil_append, Numeral.readExponent?, true_or, if_true, ne_eq,
        hne, not_false_eq_true, hall, and_self, hvalue, Option.some.injEq]
      omega
    · next hpos =>
      simp only [List.cons_append, List.nil_append, Numeral.readExponent?, true_or, if_true, ne_eq,
        hne, not_false_eq_true, hall, and_self, hvalue, Option.some.injEq, Bool.false_eq_true,
        if_false]
      omega
  · split <;> simp [exponentPart?, exponentSign, hrun]

/-- Behind digits comes the letter of the exponent, if anything. -/
lemma IsExponent.stops (h : IsExponent t exponent) :
    Payload.StopsAt Char.isDigit t ∧ Payload.StopsAt (· == '.') t := by
  have hread := h.read
  cases t with
  | nil => simp
  | cons e rest =>
    have hletter : e = 'e' ∨ e = 'E' := by
      by_contra hother
      simp [Numeral.readExponent?, hother] at hread
    rcases hletter with rfl | rfl <;> simp

/-- A text is the literal of a number, and it is read as a multiple of a power of ten as long as the
multiple fits 64 bits. -/
structure Spells (t : Text) (m : ℕ) (k : ℤ) : Prop where
  isNumber : IsNumber t
  binary64 : m < UInt64.size → binary64? (.number t) = scale? (.ofNat m) k

end Json

namespace Decimal

open Json

variable (d : Decimal) {rest : Text} {exponent : ℤ}

/-- A decimal is read with its digits behind the point and with the exponent that follows it. -/
lemma magnitude?_append (h : IsExponent rest exponent) (hfits : d.coefficient < UInt64.size) :
    magnitude? (d.text ++ rest) = scale? (.ofNat d.coefficient) (exponent - d.places) := by
  obtain ⟨hstop, hpoint⟩ := h.stops
  have hwhole : ∀ c ∈ d.whole, c.isDigit = true := fun c hc => d.isDigit_of_mem_whole hc
  have hdigits := d.isDigit
  have hsplit : d.coefficient = Natural.extend (Natural.extend 0 d.whole) (d.fraction.getD []) :=
    Natural.extend_append 0 d.whole (d.fraction.getD [])
  rw [hsplit] at hfits ⊢
  have hgather := gather_eq ((Natural.le_extend _ _).trans_lt hfits)
  have hgatherFraction := gather_eq hfits
  unfold magnitude? text places
  cases hfraction : d.fraction with
  | none =>
    rw [hfraction, Option.getD_none] at hgatherFraction
    obtain ⟨htake, hdrop⟩ := hstop.span_append hwhole
    simp only [htake, hdrop]
    split
    · exact absurd (Payload.stopsAt_cons.1 hpoint) (by decide)
    · simp [h.read, hgather, hgatherFraction]
  | some digits =>
    rw [hfraction, Option.getD_some] at hgatherFraction hdigits
    have hfirst : Payload.StopsAt Char.isDigit ('.' :: (digits ++ rest)) :=
      Payload.stopsAt_cons.2 (by decide)
    obtain ⟨htake, hdrop⟩ := hfirst.span_append hwhole
    obtain ⟨htake', hdrop'⟩ := hstop.span_append fun c hc => hdigits c (List.mem_append_right _ hc)
    simp [htake, hdrop, htake', hdrop', h.read, hgather, hgatherFraction]

/-- A decimal with an exponent is the literal of a number. -/
lemma isNumber_append (h : IsExponent rest exponent)
    (hzero : d.whole.head? = some '0' → d.whole = ['0'])
    (hplaces : d.fraction ≠ some []) : IsNumber (d.text ++ rest) := by
  obtain ⟨hstop, hpoint⟩ := h.stops
  have hwhole : ∀ c ∈ d.whole, c.isDigit = true := fun c hc => d.isDigit_of_mem_whole hc
  have hdigits := d.isDigit
  have hhead : (d.text ++ rest).head? ≠ some '-' := by
    obtain ⟨c, more, htext, hdigit⟩ := d.exists_text_eq_cons
    rintro hminus
    rw [htext] at hminus
    obtain rfl : c = '-' := Option.some.inj hminus
    exact absurd hdigit (by decide)
  rw [IsNumber, number?_of_head? hhead]
  unfold text parts?
  cases hfraction : d.fraction with
  | none =>
    have hfirst := wholePart?_of_digits hwhole d.whole_ne_nil hzero hstop
    have hnone : fractionPart? rest = some ([], rest) := by
      unfold fractionPart?
      split
      · exact absurd (Payload.stopsAt_cons.1 hpoint) (by decide)
      · rfl
    simp [hfirst, hnone, h.whole]
  | some digits =>
    rw [hfraction, Option.getD_some] at hdigits
    have hne : digits ≠ [] := fun hnil => hplaces (by rw [hfraction, hnil])
    have hfirst : wholePart? (d.whole ++ '.' :: (digits ++ rest)) =
        some (d.whole, '.' :: (digits ++ rest)) :=
      wholePart?_of_digits hwhole d.whole_ne_nil hzero (Payload.stopsAt_cons.2 (by decide))
    have hrun : digits? (digits ++ rest) = some (digits, rest) :=
      digits?_of_digits (fun c hc => hdigits c (List.mem_append_right _ hc)) hne hstop
    simp [hfirst, fractionPart?, hrun, h.whole]

/-- A decimal with an exponent spells its digits, with the places behind the point taken off the
exponent. -/
lemma spells_append (h : IsExponent rest exponent)
    (hzero : d.whole.head? = some '0' → d.whole = ['0'])
    (hplaces : d.fraction ≠ some []) :
      Spells (d.text ++ rest) d.coefficient (exponent - d.places) := by
  refine ⟨d.isNumber_append h hzero hplaces, fun hfits => ?_⟩
  rw [← d.magnitude?_append h hfits]
  obtain ⟨c, more, htext, hdigit⟩ := d.exists_text_eq_cons
  rw [htext, List.cons_append]
  unfold binary64?
  split
  · next heq =>
    obtain ⟨rfl, -⟩ := List.cons.inj (Json.number.inj heq)
    exact absurd hdigit (by decide)
  · next heq => rw [Json.number.inj heq]
  · next hother => exact absurd rfl (hother _)

end Decimal

/-! ## Numerals -/

namespace Numeral

open Json

variable (n : Numeral)

/-- How a numeral is written in a settings file. -/
def literal : Text :=
  let first := n.exponent + ((Natural.digits n.coefficient).length - 1 : Nat)
  if -5 ≤ first ∧ first < 16 then
    match n.positional with
    | (whole, []) => whole ++ ".0".toList
    | (whole, fraction) => whole ++ '.' :: fraction
  else Binary64.scientific n

lemma fractional?_finite (units : ℕ) :
    Binary64.fractional? (.finite false units) = some (Binary64.shortest .even units).literal := by
  unfold Binary64.fractional? literal
  simp only [Binary64.sign]
  split
  · split <;> simp_all
  · simp

variable {n}

/-- The first digit in front of the point is a zero only if it is the only one. -/
lemma whole_eq_zero (h0 : n.coefficient = 0 → n.exponent ≤ 0)
    (h : n.positional.1.head? = some '0') :
    n.positional.1 = ['0'] := by
  have hne := Natural.digits_ne_nil n.coefficient
  have hfirst (hc : n.coefficient ≠ 0) : (Natural.digits n.coefficient).head? ≠ some '0' :=
    head?_digits hc
  unfold positional at h ⊢
  simp only at h ⊢
  split at h
  · next hexp =>
    rw [if_pos hexp]
    simp only at h ⊢
    have hc : n.coefficient = 0 := by
      by_contra hc
      exact hfirst hc (by rwa [List.head?_append_of_ne_nil _ hne] at h)
    rw [hexp.antisymm' (h0 hc), hc]
    rfl
  · next hexp =>
    rw [if_neg hexp]
    simp only at h ⊢
    generalize hplaces : (-n.exponent).toNat = places at h ⊢
    rcases lt_or_ge places (Natural.digits n.coefficient).length with hlong | hshort
    · -- The digits reach over the point: they start with the first digit of the coefficient.
      exfalso
      rw [Nat.sub_eq_zero_of_le hlong, List.replicate_zero, List.nil_append] at h
      refine hfirst ?_ (by rwa [List.head?_take, if_neg (by omega)] at h)
      rintro hc
      rw [hc] at hlong
      have hone : (Natural.digits 0).length = 1 := rfl
      omega
    · obtain ⟨k, hk⟩ : ∃ k, places + 1 - (Natural.digits n.coefficient).length = k + 1 :=
        ⟨places - (Natural.digits n.coefficient).length, by omega⟩
      rw [hk, List.replicate_succ, List.cons_append]
      have hone :
          ('0' :: (List.replicate k '0' ++ Natural.digits n.coefficient)).length - places = 1 := by
        simp only [List.length_cons, List.length_append, List.length_replicate]
        omega
      rw [hone]
      rfl

/-- A whole number is written with one zero behind the point. -/
lemma spells_whole (h0 : n.coefficient = 0 → n.exponent ≤ 0) (hexp : 0 ≤ n.exponent) :
    Spells (n.positional.1 ++ ".0".toList) (n.coefficient * 10 ^ (n.exponent.toNat + 1)) (-1) := by
  let d : Decimal :=
    { whole := n.positional.1
      fraction := some ['0']
      whole_ne_nil := n.positional_ne_nil
      isDigit := by
        intro c hc
        rcases List.mem_append.1 hc with hwhole | hzero
        · exact TimeText.isDigit_of_mem_positional n c (List.mem_append_left _ hwhole)
        · obtain rfl : c = '0' := by simpa using hzero
          rfl }
  have htext : d.text = n.positional.1 ++ ".0".toList := rfl
  have hcoefficient : d.coefficient = n.coefficient * 10 ^ (n.exponent.toNat + 1) := by
    have hwhole : n.positional.1 = Natural.digits n.coefficient ++
        List.replicate n.exponent.toNat '0' := by
      rw [positional, if_pos hexp]
    have hdigits : d.coefficient = Natural.value (n.positional.1 ++ ['0']) := rfl
    rw [hdigits, hwhole, List.append_assoc, ← List.replicate_succ', Natural.value_append_zeros,
      Natural.value_digits]
  have hspells := d.spells_append isExponent_nil (whole_eq_zero h0) (by simp [d])
  rwa [List.append_nil, htext, hcoefficient] at hspells

lemma fraction_eq_nil_iff : n.positional.2 = [] ↔ 0 ≤ n.exponent := by
  have hplaces := n.places_decimal
  rw [Decimal.places, n.fraction_decimal] at hplaces
  rw [← List.length_eq_zero_iff, hplaces]
  omega

/-- A number with places is written with all of them behind the point. -/
lemma spells_places (hexp : n.exponent < 0) :
    Spells (n.positional.1 ++ '.' :: n.positional.2) n.coefficient n.exponent := by
  have hplaces := n.places_decimal
  have hcoefficient := n.coefficient_decimal
  have hne : n.positional.2 ≠ [] := mt fraction_eq_nil_iff.1 (not_le.2 hexp)
  have hfraction : n.decimal.fraction = some n.positional.2 := if_neg hne
  have htext : n.decimal.text = n.positional.1 ++ '.' :: n.positional.2 := by
    rw [Decimal.text, hfraction]
    rfl
  have hspells := n.decimal.spells_append isExponent_nil (whole_eq_zero fun _ => hexp.le)
    (by simpa [hfraction])
  rw [show n.exponent.toNat = 0 by omega, pow_zero, mul_one] at hcoefficient
  rwa [List.append_nil, htext, hcoefficient, hplaces,
    show (0 : ℤ) - (-n.exponent).toNat = n.exponent by omega] at hspells

/-- A number with an exponent is written with one digit in front of the point. -/
lemma spells_scientific (n : Numeral) :
    Spells (Binary64.scientific n) n.coefficient n.exponent := by
  have hdigit : ∀ c ∈ Natural.digits n.coefficient, c.isDigit = true :=
    fun _ => Natural.isDigit_of_mem_digits
  have hvalue := Natural.value_digits n.coefficient
  obtain ⟨first, more, hrun⟩ := List.exists_cons_of_ne_nil (Natural.digits_ne_nil n.coefficient)
  rw [hrun] at hdigit hvalue
  let d : Decimal :=
    { whole := [first]
      fraction := if more = [] then none else some more
      whole_ne_nil := by simp
      isDigit := by
        intro c hc
        refine hdigit c ?_
        split at hc <;> simp_all }
  have hdecimal : d.coefficient = n.coefficient ∧ d.places = more.length := by
    have hfraction : d.fraction.getD [] = more := by
      by_cases hnil : more = [] <;> simp [d, hnil]
    rw [Decimal.coefficient, Decimal.places, hfraction, ← hvalue]
    exact ⟨rfl, rfl⟩
  have hlast : d.fraction ≠ some [] := by
    by_cases hnil : more = [] <;> simp [d, hnil]
  have hspells := d.spells_append (isExponent_sign (n.exponent + more.length))
    (fun hzero => congrArg (fun c => [c]) (Option.some.inj hzero)) hlast
  have htext : Binary64.scientific n = d.text ++ ('e' ::
      (if n.exponent + more.length < 0 then ['-'] else ['+']) ++
        Natural.digits (n.exponent + more.length).natAbs) := by
    unfold Binary64.scientific
    rw [hrun]
    simp only [List.length_cons, Nat.add_sub_cancel]
    by_cases hnil : more = []
    · simp [Decimal.text, d, hnil]
    · obtain ⟨second, rest, hmore⟩ := List.exists_cons_of_ne_nil hnil
      simp [Decimal.text, d, hmore]
  rwa [hdecimal.1, hdecimal.2, add_sub_cancel_right, ← htext] at hspells

/-- A number whose first digit has an exponent below 16 is less than 10 ^ 16. -/
lemma value_lt_of_length (hpos : 0 ≤ n.exponent)
    (hfirst : n.exponent + ((Natural.digits n.coefficient).length - 1 : ℕ) < 16) :
      n.value < 10 ^ 16 := by
  obtain ⟨e, he⟩ := Int.eq_ofNat_of_zero_le hpos
  have hlength : 0 < (Natural.digits n.coefficient).length := Nat.length_toDigits_pos
  have hdigits : n.coefficient < 10 ^ (Natural.digits n.coefficient).length :=
    Binary64.lt_pow_length_toDigits n.coefficient
  have hlt : n.coefficient * 10 ^ e < 10 ^ 16 := by
    calc n.coefficient * 10 ^ e < 10 ^ (Natural.digits n.coefficient).length * 10 ^ e :=
          Nat.mul_lt_mul_of_pos_right hdigits (Nat.pow_pos (by decide))
      _ = 10 ^ ((Natural.digits n.coefficient).length + e) := (pow_add ..).symm
      _ ≤ 10 ^ 16 := Nat.pow_le_pow_right (by decide) (by omega)
  rw [value, he, zpow_natCast]
  exact_mod_cast hlt

/-- A literal spells its numeral, or ten times a whole numeral below 10 ^ 16. -/
theorem spells_literal (h0 : n.coefficient = 0 → n.exponent ≤ 0) :
    Spells n.literal n.coefficient n.exponent ∨
      0 ≤ n.exponent ∧ n.value < 10 ^ 16 ∧
        Spells n.literal (n.coefficient * 10 ^ (n.exponent.toNat + 1)) (-1) := by
  unfold literal
  simp only
  split
  · next hfirst =>
    rcases lt_or_ge n.exponent 0 with hneg | hpos
    · have hspells := spells_places hneg
      split
      · next hlayout =>
        have hnil : n.positional.2 = [] := by rw [hlayout]
        exact absurd (fraction_eq_nil_iff.1 hnil) (not_le.2 hneg)
      · next hlayout =>
        rw [hlayout] at hspells
        exact .inl hspells
    · have hspells := spells_whole h0 hpos
      split
      · next hlayout =>
        rw [hlayout] at hspells
        exact .inr ⟨hpos, value_lt_of_length hpos hfirst.2, hspells⟩
      · next hne hlayout =>
        have hnil : n.positional.2 = [] := fraction_eq_nil_iff.2 hpos
        rw [hlayout] at hnil
        exact absurd hnil hne
  · exact .inl (spells_scientific n)

end Numeral

end TimingBoard
