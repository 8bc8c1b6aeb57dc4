import Mathlib.Tactic.Lemma
import TimingBoard.Text.Basic

/-!
# Words

The words of a text are its fields between white space, without the empty ones.  Words that are put
together with single spaces are the words of the result, and every word of a text is made of
characters of that text.
-/

namespace TimingBoard.Text

variable {p : Char → Bool} {t word rest : Text}

/-! ## Fields -/

lemma fields_ne_nil (p : Char → Bool) (t : Text) : fields p t ≠ [] := by
  cases t with
  | nil => simp [fields]
  | cons c t =>
    unfold fields
    split
    · simp
    · split <;> simp

/-- A character that is no separator belongs to the first field. -/
lemma fields_cons_of_not {c : Char} (h : p c = false) (t : Text) :
    ∃ first more, fields p t = first :: more ∧ fields p (c :: t) = (c :: first) :: more := by
  rcases hfields : fields p t with _ | ⟨first, more⟩
  · exact absurd hfields (fields_ne_nil p t)
  · exact ⟨first, more, rfl, by simp [fields, h, hfields]⟩

/-- A text without a separator is one field. -/
lemma fields_of_forall (h : ∀ c ∈ word, p c = false) : fields p word = [word] := by
  induction word with
  | nil => rfl
  | cons c word ih =>
    obtain ⟨first, more, hfields, hcons⟩ := fields_cons_of_not (h c (by simp)) word
    rw [ih fun d hd => h d (by simp [hd])] at hfields
    simp only [List.cons.injEq] at hfields
    rw [hcons, ← hfields.1, ← hfields.2]

/-- The first field ends at the first separator. -/
lemma fields_append {c : Char} (h : ∀ c ∈ word, p c = false) (hc : p c = true) (rest : Text) :
    fields p (word ++ c :: rest) = word :: fields p rest := by
  induction word with
  | nil => simp [fields, hc]
  | cons d word ih =>
    obtain ⟨first, more, hfields, hcons⟩ := fields_cons_of_not (h d (by simp)) (word ++ c :: rest)
    rw [ih fun e he => h e (by simp [he])] at hfields
    simp only [List.cons.injEq] at hfields
    rw [List.cons_append, hcons, ← hfields.1, ← hfields.2]

/-- Fields are made of characters of the text. -/
lemma subset_of_mem_fields (h : word ∈ fields p t) : word ⊆ t := by
  induction t generalizing word with
  | nil =>
    obtain rfl : word = [] := by simpa [fields] using h
    simp
  | cons c t ih =>
    by_cases hc : p c = true
    · simp only [fields, hc, if_true] at h
      rcases List.mem_cons.1 h with rfl | hmem
      · simp
      · exact List.subset_cons_of_subset c (ih hmem)
    · obtain ⟨first, more, hfields, hcons⟩ := fields_cons_of_not (by simpa using hc) t
      rw [hcons] at h
      rcases List.mem_cons.1 h with rfl | hmem
      · have hfirst : first ⊆ t := ih (by simp [hfields])
        exact List.cons_subset.2 ⟨by simp, List.subset_cons_of_subset c hfirst⟩
      · exact List.subset_cons_of_subset c (ih (by simp [hfields, hmem]))

/-! ## Words -/

/-- Words are made of characters of the text. -/
lemma subset_of_mem_words (h : word ∈ words t) : word ⊆ t :=
  subset_of_mem_fields (List.mem_filter.1 h).1

/-- A text without white space is a word. -/
lemma words_of_forall (hword : word ≠ []) (h : ∀ c ∈ word, isSpace c = false) :
    words word = [word] := by
  simp [words, fields_of_forall h, hword]

/-- A word that a space follows is the first word. -/
lemma words_append (hword : word ≠ []) (h : ∀ c ∈ word, isSpace c = false) (rest : Text) :
    words (word ++ ' ' :: rest) = word :: words rest := by
  simp [words, fields_append h (show isSpace ' ' = true by decide), hword]

/-! ## Joining -/

@[simp] lemma join_nil (separator : Text) : join separator [] = [] := rfl

@[simp] lemma join_singleton (separator word : Text) : join separator [word] = word := by
  simp [join]

@[simp] lemma join_cons_cons (separator word next : Text) (more : List Text) :
    join separator (word :: next :: more) = word ++ separator ++ join separator (next :: more) := by
  simp [join, List.intersperse]

/-- What holds for the characters of the separator and of every part holds for the whole. -/
lemma forall_mem_join {separator : Text} {parts : List Text} {P : Char → Prop}
    (hseparator : ∀ c ∈ separator, P c) (hparts : ∀ part ∈ parts, ∀ c ∈ part, P c) :
    ∀ c ∈ join separator parts, P c := by
  induction parts with
  | nil => simp
  | cons part parts ih =>
    have hrest := ih fun q hq => hparts q (by simp [hq])
    cases parts with
    | nil => simpa using hparts part (by simp)
    | cons next more =>
      rw [join_cons_cons]
      intro c hc
      rcases List.mem_append.1 hc with hfirst | hmore
      · rcases List.mem_append.1 hfirst with hpart | hsep
        · exact hparts part (by simp) c hpart
        · exact hseparator c hsep
      · exact hrest c hmore

end TimingBoard.Text
