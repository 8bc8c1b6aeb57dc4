import Mathlib.Data.List.TakeWhile
import TimingBoard.Proofs.Text.Encoding

/-!
# White space around a text

Trimming finds the one part of a text that has white space around it and none at its ends.  The line
ends behind a typed line are white space too, so it does not matter whether they are dropped before.
-/

namespace TimingBoard.Text

variable {t core : Text}

/-- A text is a core with white space around it, and the core neither starts nor ends in white
space. -/
def TrimsTo (t core : Text) : Prop :=
  ∃ before after : Text, t = before ++ core ++ after ∧ (∀ c ∈ before ++ after, isSpace c = true) ∧
    (∀ c ∈ core.head?, isSpace c = false) ∧ ∀ c ∈ core.getLast?, isSpace c = false

/-- What is dropped from the end of a text is of the class. -/
lemma exists_dropEndWhile_append (p : Char → Bool) (t : Text) :
    ∃ after, dropEndWhile p t ++ after = t ∧ ∀ c ∈ after, p c = true := by
  refine ⟨(t.reverse.takeWhile p).reverse, ?_, fun c hc => ?_⟩
  · rw [dropEndWhile, ← List.reverse_append, List.takeWhile_append_dropWhile, List.reverse_reverse]
  · exact List.mem_takeWhile_imp (List.mem_reverse.1 hc)

/-- Nothing is dropped but white space. -/
lemma trimsTo_trim (t : Text) : TrimsTo t (trim t) := by
  obtain ⟨after, hafter, hspace⟩ := exists_dropEndWhile_append isSpace (t.dropWhile isSpace)
  refine ⟨t.takeWhile isSpace, after, ?_, ?_, ?_, getLast?_trimEnd (t.dropWhile isSpace)⟩
  · rw [List.append_assoc, trim, trimEnd, hafter, List.takeWhile_append_dropWhile]
  · intro c hc
    rcases List.mem_append.1 hc with hc | hc
    · exact List.mem_takeWhile_imp hc
    · exact hspace c hc
  · intro c hc
    refine head?_dropWhile_space t c ?_
    rw [← hafter, List.head?_append, ← trimEnd, ← trim, Option.mem_def.1 hc]
    rfl

/-- White space in front of a text is dropped. -/
lemma trim_append_left {before : Text} (h : ∀ c ∈ before, isSpace c = true) (t : Text) :
    trim (before ++ t) = trim t := by
  rw [trim, List.dropWhile_append_of_pos h, trim]

/-- White space behind a text is dropped. -/
lemma trim_append_right {after : Text} (h : ∀ c ∈ after, isSpace c = true) (t : Text) :
    trim (t ++ after) = trim t := by
  have hreverse : ∀ c ∈ after.reverse, isSpace c = true := fun c hc => h c (List.mem_reverse.1 hc)
  have hend (u : Text) : trimEnd (u ++ after) = trimEnd u := by
    rw [trimEnd, dropEndWhile, List.reverse_append, List.dropWhile_append_of_pos hreverse, trimEnd,
      dropEndWhile]
  rw [trim, List.dropWhile_append, trim]
  split
  · next hblank =>
    have hnone : t.dropWhile isSpace = [] := List.isEmpty_iff.1 hblank
    rw [hnone, List.dropWhile_eq_nil_iff.2 h]
  · exact hend _

/-- The core of a text is what trimming leaves. -/
lemma trim_eq_iff : trim t = core ↔ TrimsTo t core := by
  constructor
  · rintro rfl
    exact trimsTo_trim t
  · rintro ⟨before, after, rfl, hspace, hfirst, hlast⟩
    rw [trim_append_right fun c hc => hspace c (List.mem_append_right _ hc),
      trim_append_left fun c hc => hspace c (List.mem_append_left _ hc)]
    exact trim_eq_self_of_ends hfirst hlast

/-- Line ends are white space. -/
lemma isSpace_of_isLineBreak {c : Char} (h : isLineBreak c = true) : isSpace c = true := by
  by_contra hspace
  rw [isLineBreak_of_isSpace (eq_false_of_ne_true hspace)] at h
  cases h

/-- It makes no difference whether the line ends behind a text are dropped before it is trimmed. -/
lemma trim_dropEndWhile_isLineBreak (t : Text) : trim (dropEndWhile isLineBreak t) = trim t := by
  obtain ⟨ends, hsplit, hends⟩ := exists_dropEndWhile_append isLineBreak t
  have htrim := trim_append_right (fun c hc => isSpace_of_isLineBreak (hends c hc))
    (dropEndWhile isLineBreak t)
  rw [hsplit] at htrim
  exact htrim.symm

end TimingBoard.Text
