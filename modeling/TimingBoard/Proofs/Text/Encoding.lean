import Mathlib.Tactic.Lemma
import TimingBoard.Text.Bytes

/-!
# Text on the line

Commands and answers travel in UTF-8, and answers are read back one byte at a time.  Two facts make
this harmless.  A text that arrives whole is decoded to itself, so a board hears exactly the line
that was sent.  And a byte below `0x80` in the UTF-8 form of a text is a character of that text, so
the two bytes that end a line come from nowhere but a line break.  An ASCII text is read back
unchanged; of other texts the ASCII part at the start is.

A text on one line has neither of the two characters that end a line.  Only the two together end it,
so that a text may have one without the other and still not be broken into two lines.
-/

namespace TimingBoard.Text

/-- A text of ASCII characters. -/
def IsAscii (t : Text) : Prop :=
  ∀ c ∈ t, c.toNat < 0x80

/-- A text without carriage returns and line feeds. -/
def IsOneLine (t : Text) : Prop :=
  ∀ c ∈ t, isLineBreak c = false

/-- What holds of every character of a text is decided by going through the text, not through all
characters. -/
instance decidableForallMem (t : Text) (p : Char → Prop) [DecidablePred p] :
    Decidable (∀ c ∈ t, p c) :=
  List.decidableBAll p t

instance decidableForallMemOption (c? : Option Char) (p : Char → Prop) [DecidablePred p] :
    Decidable (∀ c ∈ c?, p c) :=
  Option.decidableForallMem c?

/-- A text that no end of a line breaks: no line feed follows a carriage return in it. -/
def IsUnbroken (t : Text) : Prop :=
  ¬ ['\r', '\n'] <:+: t

instance (t : Text) : Decidable (IsAscii t) :=
  decidableForallMem t fun c => c.toNat < 0x80

instance (t : Text) : Decidable (IsOneLine t) :=
  decidableForallMem t fun c => isLineBreak c = false

/-- What a text becomes when it is sent in UTF-8 and read one byte at a time. -/
def received (t : Text) : Text :=
  ofLatin1 (toUtf8 t)

/-! ## Texts on one line -/

section OneLine

variable {t u : Text}

@[simp] lemma isOneLine_nil : IsOneLine [] := by simp [IsOneLine]

@[simp] lemma isOneLine_cons {c : Char} :
    IsOneLine (c :: t) ↔ isLineBreak c = false ∧ IsOneLine t := by
  simp [IsOneLine]

@[simp] lemma isOneLine_append : IsOneLine (t ++ u) ↔ IsOneLine t ∧ IsOneLine u := by
  simp [IsOneLine, or_imp, forall_and]

/-- A text whose characters all occur in a one-line text is on one line. -/
lemma IsOneLine.of_subset (h : IsOneLine u) (hsub : t ⊆ u) : IsOneLine t :=
  fun c hc => h c (hsub hc)

/-- The test for line breaks decides whether a text is on one line. -/
lemma isOneLine_iff_any : IsOneLine t ↔ t.any isLineBreak = false := by
  simp [IsOneLine]

/-- A character that is not white space is no line break. -/
lemma isLineBreak_of_isSpace {c : Char} (h : isSpace c = false) : isLineBreak c = false := by
  rw [isLineBreak, Bool.or_eq_false_iff, beq_eq_false_iff_ne, beq_eq_false_iff_ne]
  constructor <;> rintro rfl <;> revert h <;> decide

/-! ## Unbroken texts -/

/-- A text on one line is not broken. -/
lemma IsOneLine.isUnbroken (h : IsOneLine t) : IsUnbroken t := fun hend =>
  absurd (h '\r' (hend.subset (by simp))) (by decide)

lemma isUnbroken_cons {c : Char} :
    IsUnbroken (c :: t) ↔ (c = '\r' → t.head? ≠ some '\n') ∧ IsUnbroken t := by
  have hprefix : ['\r', '\n'] <+: c :: t ↔ c = '\r' ∧ t.head? = some '\n' := by
    cases t with
    | nil => simp
    | cons d t => simp [eq_comm]
  rw [IsUnbroken, List.infix_cons_iff, not_or, hprefix, not_and]
  rfl

/-- An end of a line does not reach over a space. -/
lemma IsUnbroken.append (ht : IsUnbroken t) (hu : IsUnbroken u) : IsUnbroken (t ++ ' ' :: u) := by
  induction t with
  | nil => exact isUnbroken_cons.2 ⟨fun hspace => absurd hspace (by decide), hu⟩
  | cons c t ih =>
    obtain ⟨hend, hrest⟩ := isUnbroken_cons.1 ht
    refine isUnbroken_cons.2 ⟨fun hc => ?_, ih hrest⟩
    cases t with
    | nil => simp
    | cons d t => exact hend hc

/-- A property of texts that every text on one line has, and that a text has when the parts before
and after a space have it. -/
structure IsSpacewise (P : Text → Prop) : Prop where
  of_isOneLine {t : Text} : IsOneLine t → P t
  append {t u : Text} : P t → P u → P (t ++ ' ' :: u)

lemma isSpacewise_isOneLine : IsSpacewise IsOneLine where
  of_isOneLine h := h
  append ht hu := isOneLine_append.2 ⟨ht, isOneLine_cons.2 ⟨by decide, hu⟩⟩

lemma isSpacewise_isUnbroken : IsSpacewise IsUnbroken where
  of_isOneLine h := h.isUnbroken
  append ht hu := ht.append hu

end OneLine

/-! ## UTF-8 -/

@[simp] lemma toUtf8_nil : toUtf8 [] = [] := rfl

@[simp] lemma toUtf8_cons (c : Char) (t : Text) :
    toUtf8 (c :: t) = String.utf8EncodeChar c ++ toUtf8 t := rfl

@[simp] lemma toUtf8_append (t u : Text) : toUtf8 (t ++ u) = toUtf8 t ++ toUtf8 u := by
  simp [toUtf8]

/-- A text that was sent whole is decoded to itself. -/
@[simp] lemma ofUtf8?_toUtf8 (t : Text) : ofUtf8? (toUtf8 t) = some t := by
  have encoded : (toUtf8 t).toByteArray = t.utf8Encode := rfl
  simp [ofUtf8?, encoded, List.utf8Decode?_utf8Encode]

/-- The UTF-8 form of an ASCII character is the byte of its number. -/
lemma utf8EncodeChar_of_ascii {c : Char} (h : c.toNat < 0x80) :
    String.utf8EncodeChar c = [UInt8.ofNat c.toNat] := by
  have hval : c.val.toNat ≤ 0x7f := Nat.le_of_lt_succ h
  simp only [String.utf8EncodeChar, hval, if_true]
  rfl

/-- Outside ASCII, every byte of the UTF-8 form of a character is at least `0x80`. -/
lemma le_of_mem_utf8EncodeChar {c : Char} (h : 0x80 ≤ c.toNat) {b : UInt8}
    (hb : b ∈ String.utf8EncodeChar c) : 0x80 ≤ b.toNat := by
  have hval : ¬ c.val.toNat ≤ 0x7f := by
    have : c.val.toNat = c.toNat := rfl
    omega
  simp only [String.utf8EncodeChar, hval, if_false] at hb
  split at hb
  · simp only [List.mem_cons, List.not_mem_nil, or_false] at hb
    rcases hb with rfl | rfl <;> simp <;> omega
  · split at hb
    · simp only [List.mem_cons, List.not_mem_nil, or_false] at hb
      rcases hb with rfl | rfl | rfl <;> simp <;> omega
    · simp only [List.mem_cons, List.not_mem_nil, or_false] at hb
      rcases hb with rfl | rfl | rfl | rfl <;> simp <;> omega

/-- A byte below `0x80` in the UTF-8 form of a text is a character of the text. -/
lemma mem_of_mem_toUtf8 {t : Text} {b : UInt8} (hb : b ∈ toUtf8 t) (hlow : b.toNat < 0x80) :
    ∃ c ∈ t, c.toNat = b.toNat := by
  obtain ⟨c, hc, hbc⟩ := List.mem_flatMap.1 hb
  refine ⟨c, hc, ?_⟩
  rcases Nat.lt_or_ge c.toNat 0x80 with h | h
  · rw [utf8EncodeChar_of_ascii h, List.mem_singleton] at hbc
    subst hbc
    simp only [UInt8.toNat_ofNat']
    omega
  · exact absurd (le_of_mem_utf8EncodeChar h hbc) (Nat.not_le.2 hlow)

/-- The UTF-8 form of a one-line text holds no byte that stands for a line break. -/
lemma IsOneLine.notMem_toUtf8 {t : Text} (h : IsOneLine t) {b : UInt8} (hlow : b.toNat < 0x80)
    (hbreak : isLineBreak (Char.ofNat b.toNat) = true) : b ∉ toUtf8 t := by
  intro hb
  obtain ⟨c, hc, hval⟩ := mem_of_mem_toUtf8 hb hlow
  rw [← hval, Char.ofNat_toNat, h c hc] at hbreak
  cases hbreak

lemma IsOneLine.lineFeed_notMem {t : Text} (h : IsOneLine t) : (0x0A : UInt8) ∉ toUtf8 t :=
  h.notMem_toUtf8 (by decide) (by decide)

lemma IsOneLine.carriageReturn_notMem {t : Text} (h : IsOneLine t) : (0x0D : UInt8) ∉ toUtf8 t :=
  h.notMem_toUtf8 (by decide) (by decide)

/-! ## Reading byte by byte -/

@[simp] lemma received_nil : received [] = [] := rfl

@[simp] lemma received_append (t u : Text) : received (t ++ u) = received t ++ received u := by
  simp [received, ofLatin1]

/-- An ASCII character is read back as itself. -/
lemma received_cons_of_ascii {c : Char} (h : c.toNat < 0x80) (t : Text) :
    received (c :: t) = c :: received t := by
  have hmod : c.toNat % 256 = c.toNat := by omega
  simp [received, ofLatin1, utf8EncodeChar_of_ascii h, hmod]

/-- An ASCII text is read back as it was sent. -/
lemma IsAscii.received_eq {t : Text} (h : IsAscii t) : received t = t := by
  induction t with
  | nil => rfl
  | cons c t ih =>
    rw [received_cons_of_ascii (h c (by simp)), ih fun d hd => h d (by simp [hd])]

@[simp] lemma isAscii_nil : IsAscii [] := by simp [IsAscii]

@[simp] lemma isAscii_cons {c : Char} {t : Text} :
    IsAscii (c :: t) ↔ c.toNat < 0x80 ∧ IsAscii t := by
  simp [IsAscii]

@[simp] lemma isAscii_append {t u : Text} : IsAscii (t ++ u) ↔ IsAscii t ∧ IsAscii u := by
  simp [IsAscii, or_imp, forall_and]

end TimingBoard.Text
