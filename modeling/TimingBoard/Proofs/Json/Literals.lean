import Mathlib.Data.List.TakeWhile
import TimingBoard.Json.Codec
import TimingBoard.Proofs.Reply.Grammar

/-!
# Literals of JSON

A text is written as a string literal with escapes, and the literal is read back as the text,
whatever characters are in it.  A number is its literal: what can be read as one when nothing
follows is read as the same one in front of anything that does not go on with it.
-/

namespace TimingBoard.Json

variable {t rest run literal : Text} {c : Char}

/-! ## Strings -/

/-- The four digits in the escape of a control stand for it. -/
lemma codeUnit?_control : ∀ n < 0x20,
    (match List.replicate (4 - (Text.hexDigits n).length) '0' ++ Text.hexDigits n with
      | [a, b, c, d] => codeUnit? a b c d
      | _ => none) = some (.character (Char.ofNat n)) := by
  decide +kernel

/-- Each character is read back from how it is written. -/
lemma unit?_escapeChar (c : Char) (rest : Text) :
    unit? (escapeChar c ++ rest) = some (.character c, rest) := by
  unfold escapeChar
  split
  iterate 7 rfl
  split
  · next hcontrol =>
    have hcode := codeUnit?_control c.toNat hcontrol
    simp only
    split at hcode
    · next a b c' d hdigits =>
      rw [List.append_assoc, List.append_assoc, ← List.append_assoc _ _ rest, hdigits]
      simp only [List.cons_append, List.nil_append, unit?, hcode, Option.map_some, Char.ofNat_toNat]
    · cases hcode
  · next hslash _ _ _ _ _ hcontrol =>
    have hplain : ¬ (c.toNat < 0x20 ∨ c = '\\') := by
      rintro (hlt | heq)
      · exact hcontrol hlt
      · exact hslash heq
    unfold unit?
    split
    · next heq => exact absurd (List.cons.inj heq).1 hslash
    · next heq => exact absurd (List.cons.inj heq).1 hslash
    · next heq =>
      obtain ⟨rfl, rfl⟩ := List.cons.inj heq
      exact if_neg hplain
    · next heq => cases heq

/-- No character is written with a quotation mark first. -/
lemma exists_escapeChar (c : Char) : ∃ first more, escapeChar c = first :: more ∧ first ≠ '"' := by
  unfold escapeChar
  split
  iterate 7 exact ⟨_, _, rfl, by decide⟩
  split
  · exact ⟨_, _, rfl, by decide⟩
  · next hquote _ _ _ _ _ _ _ => exact ⟨_, _, rfl, hquote⟩

/-- The units of a literal are read one after the other. -/
lemma units?_of_unit? {u : StringUnit} (h : unit? t = some (u, rest))
    (hquote : t.head? ≠ some '"') :
    units? t = (units? rest).map fun (us, rest) => (u :: us, rest) := by
  rw [units?]
  · split
    · next hnone =>
      rw [h] at hnone
      cases hnone
    · next hsome =>
      rw [h] at hsome
      obtain ⟨rfl, rfl⟩ := Prod.mk.inj (Option.some.inj hsome)
      rfl
  · rintro rest rfl
    exact hquote rfl

lemma units?_flatMap (t rest : Text) :
    units? (t.flatMap escapeChar ++ '"' :: rest) = some (t.map .character, rest) := by
  induction t with
  | nil =>
    rw [List.flatMap_nil, List.nil_append, units?]
    rfl
  | cons c t ih =>
    obtain ⟨first, more, hfirst, hquote⟩ := exists_escapeChar c
    have hunit := unit?_escapeChar c (t.flatMap escapeChar ++ '"' :: rest)
    rw [List.flatMap_cons, List.append_assoc, units?_of_unit? hunit, ih]
    · rfl
    · simpa [hfirst] using hquote

lemma textOfUnits?_map (t : Text) : textOfUnits? (t.map .character) = some t := by
  induction t with
  | nil => rfl
  | cons c t ih => simp [textOfUnits?, ih]

/-- A string literal is read back as the text that it was written for. -/
theorem string?_literal (t rest : Text) :
    string? (t.flatMap escapeChar ++ '"' :: rest) = some (some t, rest) := by
  simp [string?, units?_flatMap, textOfUnits?_map]

/-! ## Numbers -/

/-- No character comes next that a number could go on with. -/
def EndsNumber (rest : Text) : Prop :=
  ∀ c ∈ rest.head?, c.isDigit = false ∧ c ≠ '.' ∧ c ≠ 'e' ∧ c ≠ 'E'

lemma EndsNumber.stopsAt (h : EndsNumber rest) : Payload.StopsAt Char.isDigit rest :=
  fun c hc => (h c hc).1

/-- A run of digits ends before a character that it does not go on with. -/
lemma digits?_append {left : Text} (h : digits? t = some (run, left)) (hrest : EndsNumber rest) :
    digits? (t ++ rest) = some (run, left ++ rest) := by
  unfold digits? at h
  split at h
  · cases h
  · next hne =>
    obtain ⟨hrun, hleft⟩ := Prod.mk.inj (Option.some.inj h)
    have hstop : Payload.StopsAt Char.isDigit (left ++ rest) := by
      have hfirst := Payload.stopsAt_dropWhile (p := Char.isDigit) t
      rw [hleft] at hfirst
      cases left with
      | nil => exact hrest.stopsAt
      | cons c left => exact hfirst
    have hdigits : ∀ c ∈ run, c.isDigit = true := by
      rw [← hrun]
      exact fun c hc => List.mem_takeWhile_imp hc
    obtain ⟨htake, hdrop⟩ := hstop.span_append hdigits
    have happend : t ++ rest = run ++ (left ++ rest) := by
      rw [← List.append_assoc, ← hrun, ← hleft, List.takeWhile_append_dropWhile]
    rw [hrun] at hne
    rw [happend, digits?, htake, hdrop, if_neg hne]

lemma wholePart?_append {left : Text} (h : wholePart? t = some (run, left))
    (hrest : EndsNumber rest) :
    wholePart? (t ++ rest) = some (run, left ++ rest) := by
  unfold wholePart? at h
  split at h
  · obtain ⟨rfl, rfl⟩ := Prod.mk.inj (Option.some.inj h)
    rfl
  · next hzero =>
    have hne : t ≠ [] := by
      rintro rfl
      cases h
    obtain ⟨c, more, rfl⟩ := List.exists_cons_of_ne_nil hne
    have happend := digits?_append h hrest
    unfold wholePart?
    split
    · next heq => exact absurd (List.cons.inj heq).1 fun hc => hzero more (hc ▸ rfl)
    · exact happend

lemma fractionPart?_append {left : Text} (h : fractionPart? t = some (run, left))
    (hrest : EndsNumber rest) : fractionPart? (t ++ rest) = some (run, left ++ rest) := by
  unfold fractionPart? at h
  split at h
  · obtain ⟨⟨digits, left'⟩, hdigits, heq⟩ := Option.map_eq_some_iff.1 h
    obtain ⟨rfl, rfl⟩ := Prod.mk.inj heq
    simp [fractionPart?, digits?_append hdigits hrest]
  · next hpoint =>
    obtain ⟨rfl, rfl⟩ := Prod.mk.inj (Option.some.inj h)
    unfold fractionPart?
    split
    · next more heq =>
      cases t with
      | nil =>
        rw [List.nil_append] at heq
        exact absurd rfl (hrest '.' (by simp [heq])).2.1
      | cons c t => exact absurd (List.cons.inj heq).1 fun hc => hpoint t (hc ▸ rfl)
    · rfl

lemma exponentSign_append {sign left : Text} (h : exponentSign t = (sign, left)) (hne : left ≠ []) :
    exponentSign (t ++ rest) = (sign, left ++ rest) := by
  unfold exponentSign at h
  split at h
  · obtain ⟨rfl, rfl⟩ := Prod.mk.inj h
    rfl
  · obtain ⟨rfl, rfl⟩ := Prod.mk.inj h
    rfl
  · next hplus hminus =>
    obtain ⟨rfl, rfl⟩ := Prod.mk.inj h
    obtain ⟨c, more, rfl⟩ := List.exists_cons_of_ne_nil hne
    unfold exponentSign
    split
    · next heq => exact absurd (List.cons.inj heq).1 fun hc => hplus more (hc ▸ rfl)
    · next heq => exact absurd (List.cons.inj heq).1 fun hc => hminus more (hc ▸ rfl)
    · rfl

lemma exponentPart?_append {left : Text} (h : exponentPart? t = some (run, left))
    (hrest : EndsNumber rest) : exponentPart? (t ++ rest) = some (run, left ++ rest) := by
  cases t with
  | nil =>
    obtain ⟨rfl, rfl⟩ := Prod.mk.inj (Option.some.inj h)
    cases rest with
    | nil => rfl
    | cons c rest =>
      obtain ⟨-, -, he, hE⟩ := hrest c rfl
      simp [exponentPart?, he, hE]
  | cons e t =>
    by_cases he : e = 'e' ∨ e = 'E'
    · simp only [exponentPart?, he, if_true, bind, Option.bind_eq_some_iff] at h
      obtain ⟨⟨digits, left'⟩, hdigits, heq⟩ := h
      obtain ⟨rfl, rfl⟩ := Prod.mk.inj (Option.some.inj heq)
      rcases hsplit : exponentSign t with ⟨sign, unsigned⟩
      rw [hsplit] at hdigits
      have hne : unsigned ≠ [] := by
        rintro rfl
        cases hdigits
      have hsign : exponentSign (t ++ rest) = (sign, unsigned ++ rest) :=
        exponentSign_append hsplit hne
      simp [exponentPart?, he, hsign, digits?_append hdigits hrest]
    · simp only [exponentPart?, he, if_false] at h
      obtain ⟨rfl, rfl⟩ := Prod.mk.inj (Option.some.inj h)
      simp [exponentPart?, he]

/-- A literal of a number: it is read whole when nothing follows. -/
def IsNumber (literal : Text) : Prop :=
  number? literal = some (literal, [])

/-- The parts of a number after its sign. -/
def parts? (sign t : Text) : Option (Text × Text) := do
  let (whole, rest) ← wholePart? t
  let (fraction, rest) ← fractionPart? rest
  let (exponent, rest) ← exponentPart? rest
  return (sign ++ whole ++ fraction ++ exponent, rest)

lemma number?_of_minus (t : Text) : number? ('-' :: t) = parts? ['-'] t := rfl

lemma number?_of_head? (h : t.head? ≠ some '-') : number? t = parts? [] t := by
  unfold number?
  split
  next sign unsigned hsign =>
    split at hsign
    · exact absurd rfl h
    · obtain ⟨rfl, rfl⟩ := Prod.mk.inj hsign
      rfl

lemma parts?_append {sign : Text} (h : parts? sign t = some (literal, []))
    (hrest : EndsNumber rest) :
    parts? sign (t ++ rest) = some (literal, rest) := by
  simp only [parts?, bind, Option.bind_eq_some_iff] at h ⊢
  obtain ⟨⟨whole, _⟩, hwhole, ⟨fraction, _⟩, hfraction, ⟨exponent, _⟩, hexponent, heq⟩ := h
  obtain ⟨rfl, rfl⟩ := Prod.mk.inj (Option.some.inj heq)
  exact ⟨_, wholePart?_append hwhole hrest, _, fractionPart?_append hfraction hrest, _,
    exponentPart?_append hexponent hrest, rfl⟩

/-- The literal of a number is read in front of anything that does not go on with it. -/
theorem IsNumber.number?_append (h : IsNumber literal) (hrest : EndsNumber rest) :
    number? (literal ++ rest) = some (literal, rest) := by
  unfold IsNumber at h
  cases literal with
  | nil => cases h
  | cons c more =>
    by_cases hc : c = '-'
    · subst hc
      rw [number?_of_minus] at h
      rw [List.cons_append, number?_of_minus]
      exact parts?_append h hrest
    · have hhead (u : Text) : (c :: u).head? ≠ some '-' := fun heq => hc (Option.some.inj heq)
      rw [number?_of_head? (hhead more)] at h
      rw [List.cons_append, number?_of_head? (hhead _), ← List.cons_append]
      exact parts?_append h hrest

/-- The first digit of a number is no zero, unless it is the only one. -/
lemma head?_digits {n : Nat} (h : n ≠ 0) : (Natural.digits n).head? ≠ some '0' := by
  induction n using Nat.strong_induction_on with
  | _ n ih =>
    unfold Natural.digits at ih ⊢
    rcases lt_or_ge n 10 with hlt | hge
    · rw [Nat.toDigits_of_lt_base hlt]
      have hdigit : ∀ n < 10, n ≠ 0 → [Nat.digitChar n].head? ≠ some '0' := by decide
      exact hdigit n hlt h
    · rw [Nat.toDigits_of_base_le (by decide) hge]
      have hfirst := ih (n / 10) (by omega) (by omega)
      have hne : Nat.toDigits 10 (n / 10) ≠ [] := Nat.toDigits_ne_nil
      cases hdigits : Nat.toDigits 10 (n / 10) with
      | nil => exact absurd hdigits hne
      | cons c more =>
        rw [hdigits] at hfirst
        exact hfirst

/-- A run of digits is read up to where it ends. -/
lemma digits?_of_digits (hdigit : ∀ c ∈ run, c.isDigit = true) (hne : run ≠ [])
    (hstop : Payload.StopsAt Char.isDigit rest) : digits? (run ++ rest) = some (run, rest) := by
  obtain ⟨htake, hdrop⟩ := hstop.span_append hdigit
  rw [digits?, htake, hdrop, if_neg hne]

/-- So is the whole part of a number, if it does not start with a zero that others follow. -/
lemma wholePart?_of_digits (hdigit : ∀ c ∈ run, c.isDigit = true) (hne : run ≠ [])
    (hzero : run.head? = some '0' → run = ['0']) (hstop : Payload.StopsAt Char.isDigit rest) :
    wholePart? (run ++ rest) = some (run, rest) := by
  unfold wholePart?
  split
  · next more heq =>
    obtain ⟨c, tail, rfl⟩ := List.exists_cons_of_ne_nil hne
    obtain ⟨rfl, htail⟩ := List.cons.inj heq
    have htail' : tail = [] := (List.cons.inj (hzero rfl)).2
    simp [← htail, htail']
  · exact digits?_of_digits hdigit hne hstop

/-- The digits of a natural number are the literal of one. -/
lemma isNumber_digits (n : Nat) : IsNumber (Natural.digits n) := by
  have hdigit : ∀ c ∈ Natural.digits n, c.isDigit = true := fun _ => Natural.isDigit_of_mem_digits
  have hzero (h : (Natural.digits n).head? = some '0') : Natural.digits n = ['0'] := by
    obtain rfl : n = 0 := by
      by_contra hn
      exact head?_digits hn h
    rfl
  have hwhole := wholePart?_of_digits hdigit (Natural.digits_ne_nil n) hzero Payload.stopsAt_nil
  rw [List.append_nil] at hwhole
  have hhead : (Natural.digits n).head? ≠ some '-' := by
    intro hminus
    exact absurd (hdigit '-' (List.mem_of_mem_head? hminus)) (by decide)
  rw [IsNumber, number?_of_head? hhead]
  simp [parts?, hwhole, fractionPart?, exponentPart?]

end TimingBoard.Json
