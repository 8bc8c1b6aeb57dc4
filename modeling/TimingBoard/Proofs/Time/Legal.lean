import TimingBoard.Json.Codec
import TimingBoard.Proofs.Number.Plain
import TimingBoard.Proofs.Time.Grammar

/-!
# Times that are read back

A time is legal if its text is read as the time.  Times that were read are legal, from whatever they
were read.  A time of a number is legal exactly if the number is finite and has no minus sign:
otherwise its text starts with a minus sign or with a letter, and is not read at all.  The minus
sign of a zero is a minus sign as well.
-/

namespace TimingBoard.TimeText

variable {t : TimeText} {x : Binary64} {unit : TimeUnit}

/-- The text of a time is read as the time. -/
def IsLegal (t : TimeText) : Prop := read t.text = .ok t

instance (t : TimeText) : Decidable t.IsLegal := inferInstanceAs (Decidable (_ = _))

/-- A time that can be had: it was read from a text or from JSON, it leaves its setting alone, or it
was made of a number of the format. -/
inductive IsBuilt : TimeText → Prop
  | spelled {spelling : Text} {t : TimeText} : read spelling = .ok t → IsBuilt t
  | fromJson {j : Json} {t : TimeText} : ofJson? j = some t → IsBuilt t
  | leftAlone : IsBuilt unchanged
  | fromNumber {x : Binary64} (unit : TimeUnit) : x.IsRepresentable → IsBuilt (ofNumber x unit)

lemma isLegal_unchanged : unchanged.IsLegal := by
  decide +kernel

/-- A time from JSON was read from the text of a string. -/
lemma exists_read_of_ofJson? {j : Json} (h : ofJson? j = some t) :
    ∃ spelling, TimeText.read spelling = .ok t := by
  simp only [ofJson?, bind, Option.bind_eq_some_iff] at h
  obtain ⟨spelling, -, hread⟩ := h
  split at hread
  · next hok =>
    obtain rfl := Option.some.inj hread
    exact ⟨spelling, hok⟩
  · cases hread

/-- The text of a time of a number has no white space around it. -/
lemma trimsTo_text_ofNumber (x : Binary64) (unit : TimeUnit) :
    (ofNumber x unit).text.TrimsTo (ofNumber x unit).text :=
  Text.trim_eq_iff.1 (Text.trim_of_forall (IsMade.isSpace_of_mem (.inr ⟨x, unit, rfl⟩)))

/-- The text of a finite number without a minus sign is read back. -/
lemma isLegal_ofNumber_finite {units : Nat} (h : (Binary64.finite false units).IsRepresentable)
    (unit : TimeUnit) : (ofNumber (.finite false units) unit).IsLegal := by
  obtain ⟨hlt, hdvd⟩ := Binary64.isRepresentable_finite.1 h
  have hbelow : (Binary64.shortest .away units).IsBelow := Binary64.isBelow_shortest hlt hdvd
  exact read_eq_ok_iff.2 ⟨_, Binary64.plain_finite units, trimsTo_text_ofNumber _ unit,
    hbelow.value_decimal⟩

/-- The text of another number does not even have the form of a time. -/
lemma exists_finite_of_hasForm {magnitude : Text} {letter : Option TimeUnit}
    (h : HasForm (ofNumber x unit).text magnitude letter) : ∃ units, x = .finite false units := by
  obtain ⟨hmagnitude, htrims⟩ := h
  obtain ⟨c, hc, hdigit⟩ := hmagnitude.exists_head
  have hsame : text ⟨magnitude, letter⟩ = x.plain ++ [unit.letter] :=
    (Text.trim_eq_iff.2 htrims).symm.trans (Text.trim_eq_iff.2 (trimsTo_text_ofNumber x unit))
  have hhead : c ∈ (x.plain ++ [unit.letter]).head? := by
    rw [← hsame, text, List.head?_append, Option.mem_def.1 hc]
    rfl
  refine Binary64.exists_finite_of_head ⟨c, ?_, hdigit⟩
  cases hplain : x.plain with
  | nil =>
    rw [hplain] at hhead
    obtain rfl : unit.letter = c := Option.some.inj hhead
    cases unit <;> cases hdigit
  | cons first more =>
    rw [hplain] at hhead
    exact hhead

/-- A time of a number is legal exactly if the number is finite and has no minus sign. -/
lemma isLegal_ofNumber_iff (hx : x.IsRepresentable) :
    (ofNumber x unit).IsLegal ↔ ∃ units, x = .finite false units := by
  constructor
  · intro h
    exact exists_finite_of_hasForm (read_eq_ok_iff.1 h).hasForm
  · rintro ⟨units, rfl⟩
    exact isLegal_ofNumber_finite hx unit

namespace IsBuilt

/-- A time that can be had is legal, or it is the time of a number that is not finite or has a minus
sign. -/
lemma isLegal_or (h : t.IsBuilt) : t.IsLegal ∨ ∃ x unit, x.IsRepresentable ∧ t = ofNumber x unit ∧
    ∀ units, x ≠ .finite false units := by
  cases h with
  | spelled hspelling => exact .inl (read_text hspelling)
  | fromJson hjson =>
    obtain ⟨spelling, hspelling⟩ := exists_read_of_ofJson? hjson
    exact .inl (read_text hspelling)
  | leftAlone => exact .inl isLegal_unchanged
  | @fromNumber x unit hx =>
    by_cases hfinite : ∃ units, x = .finite false units
    · exact .inl ((isLegal_ofNumber_iff hx).2 hfinite)
    · exact .inr ⟨x, unit, hx, rfl, not_exists.1 hfinite⟩

/-- A time that can be had is legal exactly if its text has the form of a time. -/
lemma isLegal_iff_hasForm (h : t.IsBuilt) :
    t.IsLegal ↔ ∃ magnitude letter, HasForm t.text magnitude letter := by
  constructor
  · intro hlegal
    exact ⟨_, _, (read_eq_ok_iff.1 hlegal).hasForm⟩
  · rintro ⟨magnitude, letter, hform⟩
    rcases h.isLegal_or with hlegal | ⟨x, unit, -, rfl, hnot⟩
    · exact hlegal
    · obtain ⟨units, hx⟩ := exists_finite_of_hasForm hform
      exact absurd hx (hnot units)

/-- The text of a time that can be had is read only as the time, and then the time is legal. -/
lemma read_text_eq_ok_iff (h : t.IsBuilt) {r : TimeText} :
    TimeText.read t.text = .ok r ↔ r = t ∧ t.IsLegal := by
  constructor
  · intro hread
    have hlegal : t.IsLegal :=
      h.isLegal_iff_hasForm.2 ⟨_, _, (read_eq_ok_iff.1 hread).hasForm⟩
    exact ⟨Except.ok.inj (hread.symm.trans hlegal), hlegal⟩
  · rintro ⟨rfl, hlegal⟩
    exact hlegal

/-- A time that can be had was read or made of a number. -/
lemma isMade (h : t.IsBuilt) : t.IsMade := by
  cases h with
  | spelled hspelling => exact .inl ⟨_, hspelling⟩
  | fromJson hjson => exact .inl (exists_read_of_ofJson? hjson)
  | leftAlone => exact .inl ⟨_, isLegal_unchanged⟩
  | fromNumber unit _ => exact .inr ⟨_, _, rfl⟩

end IsBuilt

end TimingBoard.TimeText
