import Mathlib.Data.List.Basic
import TimingBoard.Proofs.Text.Encoding
import TimingBoard.Number.Natural

/-!
# Numbers on the line

A number is sent as its decimal digits.  They are ASCII, so that they arrive unchanged, and reading
them gives the number back as long as it fits its type.
-/

namespace TimingBoard

namespace Natural

lemma digits_ne_nil (n : Nat) : digits n ≠ [] :=
  Nat.toDigits_ne_nil

lemma isDigit_of_mem_digits {n : Nat} {c : Char} (h : c ∈ digits n) : c.isDigit = true :=
  Nat.isDigit_of_mem_toDigits (by decide) (by decide) h

end Natural

namespace Text

/-- A digit is an ASCII character between `0` and `9`. -/
lemma toNat_of_isDigit {c : Char} (h : c.isDigit = true) : 48 ≤ c.toNat ∧ c.toNat ≤ 57 := by
  simp only [Char.isDigit, Bool.and_eq_true, decide_eq_true_eq, UInt32.le_iff_toNat_le] at h
  exact h

/-- A text of digits is ASCII. -/
lemma isAscii_of_digits {t : Text} (h : ∀ c ∈ t, c.isDigit = true) : IsAscii t := by
  intro c hc
  have := toNat_of_isDigit (h c hc)
  omega

lemma isLineBreak_of_isDigit {c : Char} (h : c.isDigit = true) : isLineBreak c = false := by
  have hrange := toNat_of_isDigit h
  rw [isLineBreak, Bool.or_eq_false_iff, beq_eq_false_iff_ne, beq_eq_false_iff_ne]
  refine ⟨?_, ?_⟩ <;> rintro rfl <;> simp at hrange

/-- A text of digits is on one line. -/
lemma isOneLine_of_digits {t : Text} (h : ∀ c ∈ t, c.isDigit = true) : IsOneLine t :=
  fun c hc => isLineBreak_of_isDigit (h c hc)

lemma isSpace_of_isDigit {c : Char} (h : c.isDigit = true) : isSpace c = false := by
  have hrange := toNat_of_isDigit h
  simp only [isSpace, Bool.or_eq_false_iff, Bool.and_eq_false_iff, beq_eq_false_iff_ne,
    decide_eq_false_iff_not]
  omega

end Text

namespace Natural

lemma isAscii_digits (n : Nat) : Text.IsAscii (digits n) :=
  Text.isAscii_of_digits fun _ => isDigit_of_mem_digits

lemma isOneLine_digits (n : Nat) : Text.IsOneLine (digits n) :=
  Text.isOneLine_of_digits fun _ => isDigit_of_mem_digits

/-! ## Reading digits -/

/-- The digits of a number stand for it. -/
lemma value_digits (n : Nat) : value (digits n) = n :=
  Nat.ofDigitChars_ten_toDigits

/-- Digits have no sign to be dropped. -/
lemma withoutPlus_of_digits {t : Text} (h : ∀ c ∈ t, c.isDigit = true) : withoutPlus t = t := by
  unfold withoutPlus
  split
  · have := h '+' (by simp)
    simp at this
  · rfl

/-- A number that fits is read from its digits. -/
lemma read?_digits {limit n : Nat} (h : n < limit) : read? limit (digits n) = some n := by
  have hdigits : ∀ c ∈ digits n, c.isDigit = true := fun _ => isDigit_of_mem_digits
  have hall : (digits n).all Char.isDigit = true := List.all_eq_true.2 hdigits
  simp [read?, withoutPlus_of_digits hdigits, digits_ne_nil, hall, value_digits, h]

lemma readUInt32?_digits (n : UInt32) : readUInt32? (digits n.toNat) = some n := by
  simp [readUInt32?, read?_digits n.toNat_lt]

end Natural

end TimingBoard
