import TimingBoard.Proofs.Number.Decimal
import TimingBoard.Proofs.Text.Trimming

/-!
# The grammar of times

A time is a decimal and perhaps the letter of a unit, with white space around it.  It is read if its
number is rounded to a finite one, and it keeps its spelling, so that two times are equal only if
they are spelled alike.

Digits of other scripts than ASCII have the form of a time, but no value: a text with such a digit
is refused as out of range, and not for its form.
-/

namespace TimingBoard.TimeText

open Payload

variable {t magnitude rest : Text} {unit : Option TimeUnit} {r : TimeText}

/-! ## The form of a time -/

/-- A text has the form of a time: a magnitude in digits of any script and perhaps the letter of a
unit, with white space around them. -/
def HasForm (t magnitude : Text) (unit : Option TimeUnit) : Prop :=
  IsMagnitude magnitude ∧ t.TrimsTo (text ⟨magnitude, unit⟩)

/-- The magnitude is cut off before the letter of a unit. -/
lemma cutMagnitude_text (h : IsMagnitude magnitude) (unit : Option TimeUnit) :
    cutMagnitude (text ⟨magnitude, unit⟩) = (magnitude, (unit.map TimeUnit.letter).toList) := by
  cases unit with
  | none => exact cutMagnitude_of_isMagnitude h stopsAt_nil (by simp)
  | some unit =>
    obtain ⟨hstop, hpoint⟩ := stopsAt_letter unit []
    exact cutMagnitude_of_isMagnitude h hstop hpoint

lemma readUnit?_letter (unit : Option TimeUnit) :
    readUnit? (unit.map TimeUnit.letter).toList = some unit := by
  cases unit <;> simp [readUnit?]

/-- A text of the form is read if its number is finite. -/
lemma HasForm.read_eq (h : HasForm t magnitude unit) : read t =
    if (Binary64.read? magnitude).any Binary64.isFinite then .ok ⟨magnitude, unit⟩
    else .error (.timeOutOfRange t) := by
  have hne : magnitude ≠ [] := h.1.ne_nil
  have htrim := Text.trim_eq_iff.2 h.2
  unfold read
  rw [htrim, cutMagnitude_text h.1]
  simp only [readUnit?_letter]
  cases Binary64.read? magnitude <;> rfl

/-- A text that does not have the form is refused for it. -/
lemma read_of_not_hasForm (h : ∀ magnitude unit, ¬ HasForm t magnitude unit) :
    read t = .error (.notATime t) := by
  have happend := cutMagnitude_append (Text.trim t)
  unfold read
  split
  · rfl
  · next magnitude rest hempty hcut =>
    split
    · rfl
    · next unit hunit =>
      have hmagnitude : IsMagnitude magnitude := by
        have := isMagnitude_cutMagnitude (t := Text.trim t)
        rw [hcut] at this
        exact this fun hnil => hempty hnil
      rw [hcut, ← letter_of_readUnit? hunit] at happend
      exact absurd ⟨hmagnitude, Text.trim_eq_iff.1 happend.symm⟩ (h magnitude unit)

/-! ## Times -/

/-- A text spells a time: a decimal below 2 ^ 1024 - 2 ^ 970 and perhaps the letter of a unit, with
white space around them. -/
def Spells (t : Text) (r : TimeText) : Prop :=
  ∃ d : Decimal, r.magnitude = d.text ∧ t.TrimsTo r.text ∧ d.value < 2 ^ 1024 - 2 ^ 970

/-- A magnitude in ASCII digits is a decimal. -/
lemma exists_decimal (h : IsMagnitude magnitude)
    (hascii : ∀ c ∈ magnitude, c.isDigit = true ∨ c = '.') : ∃ d : Decimal, magnitude = d.text := by
  have hdigit {c : Char} (hc : c ∈ magnitude) (hdecimal : Text.isDecimalDigit c = true) :
      c.isDigit = true := by
    refine (hascii c hc).resolve_right ?_
    rintro rfl
    cases hdecimal
  obtain ⟨whole, hwhole, rfl | ⟨fraction, hfraction, rfl⟩⟩ := h
  · refine ⟨⟨_, none, hwhole.ne_nil, fun c hc => ?_⟩, rfl⟩
    have hc : c ∈ magnitude := by simpa using hc
    exact hdigit hc (hwhole.forall_mem c hc)
  · refine ⟨⟨whole, some fraction, hwhole.ne_nil, fun c hc => ?_⟩, rfl⟩
    rcases List.mem_append.1 hc with hc | hc
    · exact hdigit (by simp [hc]) (hwhole.forall_mem c hc)
    · exact hdigit (List.mem_append_right _ (List.mem_cons_of_mem _ hc)) (hfraction c hc)

/-- A text is read as a time exactly if it spells the time. -/
lemma read_eq_ok_iff : read t = .ok r ↔ Spells t r := by
  constructor
  · intro h
    obtain ⟨rest, x, hcut, hne, -, hx, hfinite⟩ := read_eq_ok h
    have hmagnitude : IsMagnitude r.magnitude := by
      have hcut' := isMagnitude_cutMagnitude (t := Text.trim t)
      rw [hcut] at hcut'
      exact hcut' hne
    obtain ⟨d, hd⟩ := exists_decimal hmagnitude (isDigit_of_mem_magnitude h)
    rw [hd, d.binary64_read?_text] at hx
    obtain rfl := Option.some.inj hx
    exact ⟨d, hd, Text.trim_eq_iff.1 (text_of_read h).symm, d.isFinite_iff.1 hfinite⟩
  · rintro ⟨d, hd, htrims, hlimit⟩
    obtain ⟨magnitude, unit⟩ := r
    obtain rfl : magnitude = d.text := hd
    have hform : HasForm t d.text unit := ⟨d.isMagnitude_text, htrims⟩
    rw [hform.read_eq, d.binary64_read?_text, Option.any_some, d.isFinite_iff.2 hlimit]
    rfl

/-- A text that spells no time is refused, for its number if it has the form of a time and for its
form otherwise. -/
lemma read_eq_error_iff {cause : Refusal} : read t = .error cause ↔ (∀ r, ¬ Spells t r) ∧
    ((∃ magnitude unit, HasForm t magnitude unit) ∧ cause = .timeOutOfRange t ∨
      (∀ magnitude unit, ¬ HasForm t magnitude unit) ∧ cause = .notATime t) := by
  constructor
  · intro h
    have hnone (r : TimeText) : ¬ Spells t r := by
      rw [← read_eq_ok_iff, h]
      simp
    refine ⟨hnone, ?_⟩
    by_cases hform : ∃ magnitude unit, HasForm t magnitude unit
    · obtain ⟨magnitude, unit, hform⟩ := hform
      rw [hform.read_eq] at h
      split at h
      · cases h
      · exact .inl ⟨⟨magnitude, unit, hform⟩, (Except.error.inj h).symm⟩
    · have hnot : ∀ magnitude unit, ¬ HasForm t magnitude unit := fun magnitude unit h =>
        hform ⟨magnitude, unit, h⟩
      rw [read_of_not_hasForm hnot] at h
      exact .inr ⟨hnot, (Except.error.inj h).symm⟩
  · rintro ⟨hnone, ⟨⟨magnitude, unit, hform⟩, rfl⟩ | ⟨hnot, rfl⟩⟩
    · have hread := hform.read_eq
      split at hread
      · exact absurd (read_eq_ok_iff.1 hread) (hnone _)
      · exact hread
    · exact read_of_not_hasForm hnot

/-- A text that spells a time has the form of one. -/
lemma Spells.hasForm (h : Spells t r) : HasForm t r.magnitude r.unit := by
  obtain ⟨d, hd, htrims, -⟩ := h
  exact ⟨hd ▸ d.isMagnitude_text, htrims⟩

/-- A digit that is not ASCII spoils a time. -/
lemma not_spells_of_mem {c : Char} (hc : c ∈ Text.trim t) (hdecimal : Text.isDecimalDigit c = true)
    (hascii : c.isDigit = false) : ¬ Spells t r := by
  rintro ⟨d, hd, htrims, -⟩
  rw [Text.trim_eq_iff.2 htrims, text, hd] at hc
  rcases List.mem_append.1 hc with hc | hc
  · rcases d.isDigit_of_mem_text hc with hdigit | rfl
    · rw [hdigit] at hascii
      cases hascii
    · cases hdecimal
  · have hletter : ∀ c ∈ (r.unit.map TimeUnit.letter).toList, Text.isDecimalDigit c = false := by
      cases r.unit with
      | none => simp
      | some unit => cases unit <;> decide
    rw [hletter c hc] at hdecimal
    cases hdecimal

/-- Some time is spelled exactly if there are a decimal and a unit to spell it. -/
lemma exists_read_iff : (∃ r, read t = .ok r) ↔ ∃ (d : Decimal) (unit : Option TimeUnit),
    t.TrimsTo (text ⟨d.text, unit⟩) ∧ d.value < 2 ^ 1024 - 2 ^ 970 := by
  simp only [read_eq_ok_iff]
  constructor
  · rintro ⟨⟨magnitude, unit⟩, d, rfl, htrims, hlimit⟩
    exact ⟨d, unit, htrims, hlimit⟩
  · rintro ⟨d, unit, htrims, hlimit⟩
    exact ⟨_, d, rfl, htrims, hlimit⟩

/-- Texts that spell times spell the same time exactly if they are the same without white space
around them. -/
lemma eq_iff_of_read {t' : Text} {r' : TimeText} (h : read t = .ok r) (h' : read t' = .ok r') :
    r = r' ↔ Text.trim t = Text.trim t' := by
  constructor
  · rintro rfl
    rw [← text_of_read h, ← text_of_read h']
  · intro htrim
    have hread := read_text h
    rw [text_of_read h, htrim, ← text_of_read h', read_text h'] at hread
    exact (Except.ok.inj hread).symm

/-- **The grammar of times.** A text is read exactly if it is a decimal below 2 ^ 1024 - 2 ^ 970,
and perhaps the letter of a unit, with white space around them; it is read as the time that it
spells.  The time keeps the spelling, is read again from it, and is the same as another time only if
both are spelled alike.  A text with a decimal digit that is not ASCII is not read.  What is not
read is refused for its form or for its number. -/
theorem read_spelling (t : Text) :
    ((∃ r, read t = .ok r) ↔ ∃ (d : Decimal) (unit : Option TimeUnit),
      t.TrimsTo (text ⟨d.text, unit⟩) ∧ d.value < 2 ^ 1024 - 2 ^ 970) ∧
    (∀ r, read t = .ok r ↔ Spells t r) ∧
    (∀ r, read t = .ok r → r.text = Text.trim t ∧ read r.text = .ok r ∧
      ∀ t' r', read t' = .ok r' → (r = r' ↔ Text.trim t = Text.trim t')) ∧
    (∀ c ∈ Text.trim t, Text.isDecimalDigit c = true → c.isDigit = false →
      ∃ cause, read t = .error cause) ∧
    ∀ cause, read t = .error cause ↔ (∀ r, ¬ Spells t r) ∧
      ((∃ magnitude unit, HasForm t magnitude unit) ∧ cause = .timeOutOfRange t ∨
        (∀ magnitude unit, ¬ HasForm t magnitude unit) ∧ cause = .notATime t) := by
  refine ⟨exists_read_iff, fun _ => read_eq_ok_iff, fun r h => ⟨text_of_read h, read_text h, ?_⟩,
    ?_, fun _ => read_eq_error_iff⟩
  · exact fun t' r' h' => eq_iff_of_read h h'
  · intro c hc hdecimal hascii
    cases hread : read t with
    | ok r => exact absurd (read_eq_ok_iff.1 hread) (not_spells_of_mem hc hdecimal hascii)
    | error cause => exact ⟨cause, rfl⟩

/-- Zeros behind the point are kept, so that two and a half minutes in two spellings are two times.
The digit three of another script has the form of a number, and no value. -/
theorem read_spelling_minutes :
    (∃ r r', read " 2.50M\n".toList = .ok r ∧ r.text = "2.50M".toList ∧
      read "2.5M".toList = .ok r' ∧ r ≠ r') ∧
    ∃ cause, read "\u0663s".toList = .error cause := by
  let long : Decimal := ⟨"2".toList, some "50".toList, by decide, by decide⟩
  let short : Decimal := ⟨"2".toList, some "5".toList, by decide, by decide⟩
  obtain ⟨r, hr⟩ := (read_spelling " 2.50M\n".toList).1.2 ⟨long, some .minutes,
    ⟨" ".toList, "\n".toList, by decide⟩, long.isFinite_iff.1 (by decide +kernel)⟩
  obtain ⟨r', hr'⟩ := (read_spelling "2.5M".toList).1.2 ⟨short, some .minutes, ⟨[], [], by decide⟩,
    short.isFinite_iff.1 (by decide +kernel)⟩
  obtain ⟨htext, -, hsame⟩ := (read_spelling _).2.2.1 r hr
  refine ⟨⟨r, r', hr, htext.trans (by decide), hr', (hsame _ r' hr').not.2 (by decide)⟩, ?_⟩
  exact (read_spelling _).2.2.2.1 '\u0663' (by decide) (by decide) (by decide)

end TimingBoard.TimeText
