import Mathlib.Data.List.TakeWhile
import TimingBoard.Proofs.Number.Digits
import TimingBoard.Time.TimeText

/-!
# How times are spelled

A time is made in two ways: it is read from a text, or it is a number with a unit.  A time that is
read keeps the spelling it was given, without the white space around it, and this spelling is ASCII
although digits of every script are admitted at first: the number in front of the unit must be read
too, and only ASCII digits have a value.  So reading the text of a time that was read gives the time
back.

Either way the text of a time is one word.
-/

namespace TimingBoard

namespace Text

variable {t : Text}

/-- A text without white space is trimmed. -/
lemma trim_of_forall (h : ∀ c ∈ t, isSpace c = false) : trim t = t :=
  trim_eq_self_of_ends (fun c hc => h c (List.mem_of_mem_head? hc))
    fun c hc => h c (List.mem_of_mem_getLast? hc)

end Text

/-! ## Magnitudes -/

namespace Numeral

variable {t : Text} {n : Numeral}

/-- An exponent begins with its letter. -/
lemma head_of_readExponent? {rest : Text} {k : Int} (h : readExponent? rest = some k) :
    rest = [] ∨ ∃ e more, rest = e :: more ∧ (e = 'e' ∨ e = 'E') := by
  unfold readExponent? at h
  split at h
  · exact Or.inl rfl
  · next e more =>
    by_cases he : e = 'e' ∨ e = 'E'
    · exact Or.inr ⟨e, more, rfl, he⟩
    · simp [he] at h

/-- A numeral is digits, perhaps a point and more digits, and an exponent. -/
lemma append_of_read? (h : read? t = some n) :
    ∃ digits rest k, t = digits ++ rest ∧ (∀ c ∈ digits, c.isDigit = true ∨ c = '.') ∧
      readExponent? rest = some k := by
  have hdigit (u : Text) : ∀ c ∈ u.takeWhile Char.isDigit, c.isDigit = true :=
    fun _ hc => List.mem_takeWhile_imp hc
  have hwhole : t.takeWhile Char.isDigit ++ t.dropWhile Char.isDigit = t :=
    List.takeWhile_append_dropWhile
  simp only [read?, bind, Option.bind_eq_some_iff] at h
  obtain ⟨k, hk, -⟩ := h
  split at hk
  · next r hrest =>
    refine ⟨t.takeWhile Char.isDigit ++ '.' :: r.takeWhile Char.isDigit, _, k, ?_, ?_, hk⟩
    · rw [List.append_assoc, List.cons_append, List.takeWhile_append_dropWhile, ← hrest, hwhole]
    · intro c hc
      rcases List.mem_append.1 hc with hc | hc
      · exact Or.inl (hdigit _ c hc)
      · rcases List.mem_cons.1 hc with hpoint | hc
        · exact Or.inr hpoint
        · exact Or.inl (hdigit _ c hc)
  · exact ⟨_, _, k, hwhole.symm, fun c hc => Or.inl (hdigit _ c hc), hk⟩

/-- A numeral without the letter of an exponent is made of digits and points. -/
lemma isDigit_of_mem (h : read? t = some n) (hexponent : ∀ c ∈ t, c ≠ 'e' ∧ c ≠ 'E') :
    ∀ c ∈ t, c.isDigit = true ∨ c = '.' := by
  obtain ⟨digits, rest, k, rfl, hdigits, hk⟩ := append_of_read? h
  rcases head_of_readExponent? hk with rfl | ⟨e, more, rfl, he⟩
  · rwa [List.append_nil]
  · have hletter := hexponent e (by simp)
    rcases he with rfl | rfl
    · exact absurd rfl hletter.1
    · exact absurd rfl hletter.2

end Numeral

namespace TimeText

variable {t : Text} {r : TimeText}

/-! ## Times that are read -/

/-- A text is its magnitude and the rest after it. -/
lemma cutMagnitude_append (t : Text) : (cutMagnitude t).1 ++ (cutMagnitude t).2 = t := by
  have happend := List.takeWhile_append_dropWhile (p := Text.isDecimalDigit) (l := t)
  unfold cutMagnitude
  simp only
  split
  · next rest hwhole => rwa [hwhole] at happend
  · next rest hrest _ =>
    rw [hrest] at happend
    simpa using happend
  · exact happend

/-- A magnitude is made of digits and points. -/
lemma isDecimalDigit_of_mem_cutMagnitude {c : Char} (h : c ∈ (cutMagnitude t).1) :
    Text.isDecimalDigit c = true ∨ c = '.' := by
  have hdigit (u : Text) : c ∈ u.takeWhile Text.isDecimalDigit → Text.isDecimalDigit c = true :=
    fun hc => List.mem_takeWhile_imp hc
  unfold cutMagnitude at h
  simp only at h
  split at h
  · simp at h
  · rcases List.mem_append.1 h with hwhole | hfraction
    · exact Or.inl (hdigit _ hwhole)
    · rcases List.mem_cons.1 hfraction with hpoint | hfraction
      · exact Or.inr hpoint
      · exact Or.inl (hdigit _ hfraction)
  · exact Or.inl (hdigit _ h)

/-- What a time that is read is made of. -/
lemma read_eq_ok (h : read t = .ok r) :
    ∃ rest x, cutMagnitude (Text.trim t) = (r.magnitude, rest) ∧ r.magnitude ≠ [] ∧
      readUnit? rest = some r.unit ∧ Binary64.read? r.magnitude = some x ∧ x.isFinite = true := by
  unfold read at h
  split at h
  · simp at h
  · next magnitude rest hempty hcut =>
    have hne : magnitude ≠ [] := fun hnil => hempty hnil
    split at h
    · simp at h
    · next unit hunit =>
      split at h
      · next x hx =>
        split at h
        · next hfinite =>
          obtain rfl := Except.ok.inj h
          exact ⟨rest, x, hcut, hne, hunit, hx, hfinite⟩
        · simp at h
      · simp at h

/-- A digit of any script is not an upper case letter. -/
lemma toLower_of_isDecimalDigit {c : Char} (h : Text.isDecimalDigit c = true ∨ c = '.') :
    c.toLower = c := by
  rcases h with hdigit | rfl
  · have hlower : ¬ (65 ≤ c.toNat ∧ c.toNat ≤ 90) := by
      intro hupper
      have hascii : c.toNat < 0x80 := by omega
      have hrange := Text.toNat_of_isDigit (by simpa [Text.isDecimalDigit, hascii] using hdigit)
      omega
    unfold Char.toLower
    split
    · next hupper => exact absurd hupper hlower
    · rfl
  · decide

/-- The number of a time that is read is written in ASCII digits. -/
lemma isDigit_of_mem_magnitude (h : read t = .ok r) :
    ∀ c ∈ r.magnitude, c.isDigit = true ∨ c = '.' := by
  obtain ⟨rest, x, hcut, hne, -, hx, -⟩ := read_eq_ok h
  have hchars : ∀ c ∈ r.magnitude, Text.isDecimalDigit c = true ∨ c = '.' := by
    intro c hc
    refine isDecimalDigit_of_mem_cutMagnitude (t := Text.trim t) ?_
    rwa [hcut]
  have habsent {c : Char} (hdigit : Text.isDecimalDigit c = false) (hpoint : c ≠ '.') :
      c ∉ r.magnitude := by
    intro hc
    rcases hchars c hc with hc | hc
    · simp [hc] at hdigit
    · exact hpoint hc
  have hlower : r.magnitude.map Char.toLower = r.magnitude := by
    have hsame : ∀ c ∈ r.magnitude, c.toLower = id c := fun c hc =>
      toLower_of_isDecimalDigit (hchars c hc)
    rw [List.map_congr_left hsame, List.map_id]
  have hread : Binary64.readMagnitude? false r.magnitude = some x := by
    unfold Binary64.read? at hx
    split at hx
    · next hminus => exact absurd (by simp [hminus]) (habsent (c := '-') (by decide) (by decide))
    · next hplus => exact absurd (by simp [hplus]) (habsent (c := '+') (by decide) (by decide))
    · exact hx
  unfold Binary64.readMagnitude? at hread
  rw [hlower] at hread
  split at hread
  · next n hn =>
    refine Numeral.isDigit_of_mem hn fun c hc => ⟨?_, ?_⟩
    · rintro rfl
      exact habsent (by decide) (by decide) hc
    · rintro rfl
      exact habsent (by decide) (by decide) hc
  · have hn : 'n' ∉ r.magnitude := habsent (by decide) (by decide)
    have hwords : ¬ (r.magnitude = "inf".toList ∨ r.magnitude = "infinity".toList) ∧
        r.magnitude ≠ "nan".toList := by
      refine ⟨?_, fun hword => hn (by simp [hword])⟩
      rintro (hword | hword) <;> exact hn (by simp [hword])
    rw [if_neg hwords.1, if_neg hwords.2] at hread
    cases hread

/-- A unit that is read is written as its letter. -/
lemma letter_of_readUnit? {rest : Text} {unit : Option TimeUnit} (h : readUnit? rest = some unit) :
    (unit.map TimeUnit.letter).toList = rest := by
  unfold readUnit? at h
  split at h
  · obtain rfl := Option.some.inj h
    rfl
  · next c =>
    obtain ⟨u, hu, rfl⟩ := Option.map_eq_some_iff.1 h
    have hletter := List.find?_some hu
    simpa using hletter
  · simp at h

/-- A time that is read keeps its spelling. -/
lemma text_of_read (h : read t = .ok r) : r.text = Text.trim t := by
  obtain ⟨rest, x, hcut, -, hunit, -, -⟩ := read_eq_ok h
  have happend := cutMagnitude_append (Text.trim t)
  rw [hcut] at happend
  rw [text, letter_of_readUnit? hunit]
  exact happend

lemma isLineBreak_letter (u : TimeUnit) : Text.isLineBreak u.letter = false := by
  cases u <;> decide

/-- A time is on one line if its magnitude is. -/
lemma isOneLine_text (h : Text.IsOneLine r.magnitude) : Text.IsOneLine r.text := by
  rw [text, Text.isOneLine_append]
  refine ⟨h, ?_⟩
  cases r.unit with
  | none => simp
  | some u => simpa using isLineBreak_letter u

/-- A time that is read is on one line. -/
lemma isOneLine_of_read (h : read t = .ok r) : Text.IsOneLine r.text := by
  refine isOneLine_text fun c hc => ?_
  rcases isDigit_of_mem_magnitude h c hc with hdigit | rfl
  · exact Text.isLineBreak_of_isDigit hdigit
  · decide

/-- The text of a time that is read is ASCII. -/
lemma isAscii_text_of_read (h : read t = .ok r) : Text.IsAscii r.text := by
  have hmagnitude : Text.IsAscii r.magnitude := by
    intro c hc
    rcases isDigit_of_mem_magnitude h c hc with hdigit | rfl
    · have := Text.toNat_of_isDigit hdigit
      omega
    · decide
  rw [text, Text.isAscii_append]
  refine ⟨hmagnitude, ?_⟩
  cases r.unit with
  | none => simp
  | some u => cases u <;> decide

/-- The text of a time that is read is read as the same time. -/
lemma read_text (h : read t = .ok r) : read r.text = .ok r := by
  obtain ⟨rest, x, hcut, hne, hunit, hx, hfinite⟩ := read_eq_ok h
  have htrim : Text.trim r.text = Text.trim t := by rw [text_of_read h, Text.trim_trim]
  unfold read
  rw [htrim, hcut]
  split
  · next heq => exact absurd (congrArg Prod.fst heq) hne
  · next heq =>
    obtain ⟨rfl, rfl⟩ := Prod.mk.inj heq
    simp [hunit, hx, hfinite]

/-! ## Times of numbers -/

/-- A decimal is laid out in digits. -/
lemma isDigit_of_mem_positional (n : Numeral) :
    ∀ c ∈ n.positional.1 ++ n.positional.2, c.isDigit = true := by
  have hzeros (k : Nat) : ∀ c ∈ List.replicate k '0' ++ Natural.digits n.coefficient,
      c.isDigit = true := by
    intro c hc
    rcases List.mem_append.1 hc with hzero | hdigit
    · rw [List.eq_of_mem_replicate hzero]
      decide
    · exact Natural.isDigit_of_mem_digits hdigit
  intro c hc
  unfold Numeral.positional at hc
  simp only at hc
  split at hc
  · refine hzeros n.exponent.toNat c ?_
    simpa [or_comm] using hc
  · rw [List.take_append_drop] at hc
    exact hzeros _ c hc

/-- A number in plain text holds no white space. -/
lemma isSpace_of_mem_plain {x : Binary64} {c : Char} (h : c ∈ x.plain) :
    Text.isSpace c = false := by
  have hsign (negative : Bool) : ∀ c ∈ Binary64.sign negative, Text.isSpace c = false := by
    cases negative <;> decide
  cases x with
  | nan => revert c; decide
  | infinite negative => revert c; cases negative <;> decide
  | finite negative units =>
    have hdigits := isDigit_of_mem_positional (Binary64.shortest .away units)
    simp only [Binary64.plain] at h
    generalize (Binary64.shortest .away units).positional = layout at h hdigits
    have hspace : ∀ c ∈ layout.1 ++ layout.2, Text.isSpace c = false :=
      fun c hc => Text.isSpace_of_isDigit (hdigits c hc)
    rcases layout with ⟨whole, _ | ⟨d, fraction⟩⟩
    · rcases List.mem_append.1 h with hc | hc
      · exact hsign negative c hc
      · exact hspace c (List.mem_append_left _ hc)
    · rcases List.mem_append.1 h with hc | hc
      · rcases List.mem_append.1 hc with hc | hc
        · exact hsign negative c hc
        · exact hspace c (List.mem_append_left _ hc)
      · rcases List.mem_cons.1 hc with rfl | hc
        · decide
        · exact hspace c (List.mem_append_right _ hc)

/-- A time that is made, in one of the two ways. -/
def IsMade (t : TimeText) : Prop :=
  (∃ spelling, read spelling = .ok t) ∨ ∃ x unit, t = ofNumber x unit

/-- The text of a time that is made holds no white space. -/
lemma IsMade.isSpace_of_mem (h : r.IsMade) : ∀ c ∈ r.text, Text.isSpace c = false := by
  have hletter : ∀ c ∈ (r.unit.map TimeUnit.letter).toList, Text.isSpace c = false := by
    cases r.unit with
    | none => simp
    | some u => cases u <;> decide
  intro c hc
  rcases List.mem_append.1 hc with hc | hc
  · rcases h with ⟨spelling, hread⟩ | ⟨x, unit, rfl⟩
    · rcases isDigit_of_mem_magnitude hread c hc with hdigit | rfl
      · exact Text.isSpace_of_isDigit hdigit
      · decide
    · exact isSpace_of_mem_plain hc
  · exact hletter c hc

lemma IsMade.text_ne_nil (h : r.IsMade) : r.text ≠ [] := by
  rcases h with ⟨spelling, hread⟩ | ⟨x, unit, rfl⟩
  · obtain ⟨rest, x, -, hne, -⟩ := read_eq_ok hread
    simp [text, hne]
  · simp [text, ofNumber]

/-- The text of a time that is made is on one line. -/
lemma IsMade.isOneLine (h : r.IsMade) : Text.IsOneLine r.text :=
  fun c hc => Text.isLineBreak_of_isSpace (h.isSpace_of_mem c hc)

/-- A time that is made can be found again from its text. -/
lemma IsMade.eq_of_read (h : r.IsMade) {t' : TimeText} (hread : read r.text = .ok t')
    (hunit : t'.unit.isSome = true) : t' = r := by
  have htext : t'.text = r.text := by
    rw [text_of_read hread, Text.trim_of_forall h.isSpace_of_mem]
  rcases h with ⟨spelling, hspelling⟩ | ⟨x, unit, rfl⟩
  · exact Except.ok.inj (hread.symm.trans (read_text hspelling))
  · obtain ⟨magnitude, unit' | unit'⟩ := t'
    · simp at hunit
    · have hparts : magnitude ++ [unit'.letter] = x.plain ++ [unit.letter] := htext
      obtain ⟨rfl, hletter⟩ := List.append_inj' hparts rfl
      have hsame : some unit' = some unit := by
        rw [← TimeUnit.ofLetter?_letter, (List.cons.inj hletter).1, TimeUnit.ofLetter?_letter]
      rw [hsame, ofNumber]

end TimeText

end TimingBoard
