import Mathlib.Data.List.TakeWhile
import TimingBoard.Proofs.Text.Encoding
import TimingBoard.Request

/-!
# The line of a command

A command is sent as its line.  The line is not empty, is one line, has no white space at its end,
and is cut at its first space into the word of the verb and the argument: what arrives at the other
side is the command that was sent.
-/

namespace TimingBoard

namespace Text

variable {word t : Text}

/-- A line is cut at its first space. -/
lemma cutAtSpace_append (h : ' ' ∉ word) (rest : Text) :
    cutAtSpace (word ++ ' ' :: rest) = (word, rest) := by
  have hword : ∀ c ∈ word, (c != ' ') = true := by
    intro c hc
    exact bne_iff_ne.2 fun heq => h (heq ▸ hc)
  simp [cutAtSpace, List.takeWhile_append_of_pos hword, List.dropWhile_append_of_pos hword]

/-- A line without a space is one word. -/
lemma cutAtSpace_of_notMem (h : ' ' ∉ word) : cutAtSpace word = (word, []) := by
  have hword : ∀ c ∈ word, (c != ' ') = true := by
    intro c hc
    exact bne_iff_ne.2 fun heq => h (heq ▸ hc)
  have htake : word.takeWhile (· != ' ') = word := List.takeWhile_eq_self_iff.2 hword
  have hdrop : word.dropWhile (· != ' ') = [] := List.dropWhile_eq_nil_iff.2 hword
  simp [cutAtSpace, htake, hdrop]

lemma cutAtSpace_subset (t : Text) : (cutAtSpace t).1 ⊆ t ∧ (cutAtSpace t).2 ⊆ t := by
  refine ⟨(List.takeWhile_sublist _).subset, ?_⟩
  exact ((List.drop_sublist _ _).trans (List.dropWhile_sublist _)).subset

/-- A text that ends in no white space loses nothing at its end. -/
lemma trimEnd_of_getLast? (h : ∀ c ∈ t.getLast?, isSpace c = false) : trimEnd t = t := by
  have hfirst : t.reverse.dropWhile isSpace = t.reverse := by
    cases hrev : t.reverse with
    | nil => rfl
    | cons c rest =>
      have hc : c ∈ t.getLast? := by simp [← List.head?_reverse, hrev]
      simp [h c hc]
  simp [trimEnd, dropEndWhile, hfirst]

end Text

/-- The verb of a word has it as its word. -/
lemma Verb.ofWord?_eq_some_iff {v : Verb} {word : Text} : ofWord? word = some v ↔
    v.word = word := by
  constructor
  · intro h
    have hword := List.find?_some h
    exact beq_iff_eq.1 hword
  · rintro rfl
    exact ofWord?_word v

lemma Verb.space_notMem_word (v : Verb) : ' ' ∉ v.word := by
  cases v <;> decide

lemma Verb.isOneLine_word (v : Verb) : Text.IsOneLine v.word := by
  cases v <;> decide

lemma Verb.getLast?_word (v : Verb) : ∀ c ∈ v.word.getLast?, Text.isSpace c = false := by
  cases v <;> decide

namespace Command

variable (c : Command)

lemma isOneLine_argument : Text.IsOneLine c.argument :=
  Text.isOneLine_iff_any.2 c.oneLine

/-- An argument does not end in white space. -/
lemma getLast?_argument : ∀ a ∈ c.argument.getLast?, Text.isSpace a = false := by
  have hlast := Text.getLast?_trimEnd (c.argument.dropWhile Text.isSpace)
  rwa [show Text.trimEnd (c.argument.dropWhile Text.isSpace) = c.argument from c.trimmed] at hlast

/-- The line of a command is cut into its verb and its argument. -/
lemma cutAtSpace_line : Text.cutAtSpace c.line = (c.verb.word, c.argument) := by
  unfold line
  split
  · next hempty => rw [Text.cutAtSpace_of_notMem c.verb.space_notMem_word, hempty]
  · exact Text.cutAtSpace_append c.verb.space_notMem_word c.argument

lemma isOneLine_line : Text.IsOneLine c.line := by
  have hspace : Text.isLineBreak ' ' = false := by decide
  unfold line
  split
  · exact c.verb.isOneLine_word
  · simp [c.verb.isOneLine_word, hspace, c.isOneLine_argument]

/-- The line of a command has no white space at its end. -/
lemma trimEnd_line : Text.trimEnd c.line = c.line := by
  refine Text.trimEnd_of_getLast? ?_
  unfold line
  split
  · exact c.verb.getLast?_word
  · next hargument =>
    have hlast := c.getLast?_argument
    rw [List.getLast?_append, List.getLast?_cons]
    cases hend : c.argument.getLast? with
    | none => exact absurd (List.getLast?_eq_none_iff.1 hend) hargument
    | some a => simpa [hend] using hlast a (by simp [hend])

lemma line_ne_nil : c.line ≠ [] := by
  have hword : c.verb.word ≠ [] := by cases c.verb <;> decide
  unfold line
  split <;> simp [hword]

/-! ## Reading the line -/

/-- The line of a command has no white space at its start either. -/
lemma trim_line : Text.trim c.line = c.line := by
  have hstart : c.line.dropWhile Text.isSpace = c.line := by
    unfold line
    cases c.verb <;> split <;> rfl
  rw [Text.trim, hstart, c.trimEnd_line]

/-- The line of a command is read as the command. -/
lemma read_line : read c.line = .ok c := by
  have hmake : make c.verb c.argument = .ok c := by simp [make, c.trimmed, c.oneLine]
  simp [read, c.trim_line, c.cutAtSpace_line, hmake]

/-! ## The bytes of a command -/

/-- A command is sent as the bytes of its line, and a line feed. -/
lemma encode_eq : c.encode = Text.toUtf8 c.line ++ [0x0A] := by
  rw [encode, Text.toUtf8_append]
  rfl

end Command

end TimingBoard
