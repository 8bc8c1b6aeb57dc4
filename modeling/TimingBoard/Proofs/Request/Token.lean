import TimingBoard.Proofs.Text.Encoding
import TimingBoard.Request

/-!
# Tokens as words

A token is not empty and its characters are visible ASCII characters.  So it is one word, on one
line, and it arrives as it was sent.
-/

namespace TimingBoard.Token

variable {c : Char} {token : Text}

/-- The code points of a range of characters. -/
lemma toNat_of_between (low high : UInt32) (h : low ≤ c.val ∧ c.val ≤ high) :
    low.toNat ≤ c.toNat ∧ c.toNat ≤ high.toNat :=
  ⟨UInt32.le_iff_toNat_le.1 h.1, UInt32.le_iff_toNat_le.1 h.2⟩

/-- The characters of tokens are visible ASCII characters. -/
lemma toNat_of_isCharacter (h : isCharacter c = true) : 0x21 ≤ c.toNat ∧ c.toNat < 0x80 := by
  simp only [isCharacter, Bool.or_eq_true, beq_iff_eq] at h
  rcases h with (((hword | rfl) | rfl) | rfl) | rfl
  · have hclass : (c.isUpper || c.isLower || c.isDigit) = true := hword
    rw [Bool.or_eq_true, Bool.or_eq_true] at hclass
    rcases hclass with (hupper | hlower) | hdigit
    · have hrange : 65 ≤ c.toNat ∧ c.toNat ≤ 90 :=
        toNat_of_between 65 90 (of_decide_eq_true hupper)
      omega
    · have hrange : 97 ≤ c.toNat ∧ c.toNat ≤ 122 :=
        toNat_of_between 97 122 (by simpa using (Bool.and_eq_true _ _).mp hlower)
      omega
    · have hrange : 48 ≤ c.toNat ∧ c.toNat ≤ 57 :=
        toNat_of_between 48 57 (by simpa using (Bool.and_eq_true _ _).mp hdigit)
      omega
  all_goals decide

lemma isSpace_of_isCharacter (h : isCharacter c = true) : Text.isSpace c = false := by
  have hrange := toNat_of_isCharacter h
  simp only [Text.isSpace, Bool.or_eq_false_iff, Bool.and_eq_false_iff, beq_eq_false_iff_ne,
    decide_eq_false_iff_not]
  omega

/-- A token is not empty, and all of its characters are those of tokens. -/
lemma isToken_iff : isToken token = true ↔ token ≠ [] ∧ ∀ c ∈ token, isCharacter c = true := by
  simp [isToken]

/-- A token is ASCII. -/
lemma isAscii (h : isToken token = true) : Text.IsAscii token :=
  fun c hc => (toNat_of_isCharacter ((isToken_iff.1 h).2 c hc)).2

/-- A token holds no white space. -/
lemma isSpace_of_mem (h : isToken token = true) : ∀ c ∈ token, Text.isSpace c = false :=
  fun c hc => isSpace_of_isCharacter ((isToken_iff.1 h).2 c hc)

/-- A token is on one line. -/
lemma isOneLine (h : isToken token = true) : Text.IsOneLine token :=
  fun c hc => Text.isLineBreak_of_isSpace (isSpace_of_mem h c hc)

end TimingBoard.Token
