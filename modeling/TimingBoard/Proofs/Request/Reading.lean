import TimingBoard.Proofs.Request.Making
import TimingBoard.Proofs.Text.Trimming

/-!
# Lines as they are typed

A typed line is read by its grammar.  White space around the line does not count.  The line is the
word of a verb, alone or with a space and a rest behind it; only U+0020 ends the word, so that a tab
in its place makes the word unknown.  White space around the rest does not count either, and the
rest is the argument if it is on one line.

The command that a line is read as is written as a line of its own, and this line is read as the
same command: reading and writing bring every line into one form.
-/

namespace TimingBoard.Command

variable {typed line rest argument : Text} {verb : Verb} {c : Command}

/-! ## The grammar -/

/-- A line says a verb and a rest: the word of the verb stands alone, or a space and the rest follow
it. -/
inductive Says : Text → Verb → Text → Prop
  | alone (verb : Verb) : Says verb.word verb []
  | followed (verb : Verb) (rest : Text) : Says (verb.word ++ ' ' :: rest) verb rest

/-- A typed text is a line that says a verb and an argument, with white space around the line and
around the argument. -/
def Types (typed : Text) (verb : Verb) (argument : Text) : Prop :=
  ∃ line rest, typed.TrimsTo line ∧ Says line verb rest ∧ rest.TrimsTo argument

/-- What a line says is what it is cut into at its first space. -/
lemma says_iff : Says line verb rest ↔ Text.cutAtSpace line = (verb.word, rest) := by
  constructor
  · rintro (_ | _)
    · exact Text.cutAtSpace_of_notMem verb.space_notMem_word
    · exact Text.cutAtSpace_append verb.space_notMem_word rest
  · intro hcut
    obtain ⟨hword, hrest⟩ := Prod.mk.inj hcut
    have hline : verb.word ++ line.dropWhile (· != ' ') = line := by
      rw [← hword, List.takeWhile_append_dropWhile]
    cases hbehind : line.dropWhile (· != ' ') with
    | nil =>
      rw [hbehind] at hline hrest
      obtain rfl : [] = rest := hrest
      rw [← hline, List.append_nil]
      exact .alone verb
    | cons c behind =>
      have hspace : c = ' ' := by simpa [hbehind] using List.head?_dropWhile_not (· != ' ') line
      rw [hbehind, hspace] at hline
      rw [hbehind] at hrest
      obtain rfl : behind = rest := hrest
      rw [← hline]
      exact .followed verb behind

/-- The causes for which a typed text is refused: its line says no verb, or the argument that it
says is broken over lines. -/
inductive IsRefused (typed : Text) : Refusal → Prop
  | unknownVerb {line : Text} : typed.TrimsTo line → (∀ verb rest, ¬ Says line verb rest) →
      IsRefused typed (.unknownVerb line)
  | lineBreak {verb : Verb} {argument : Text} : Types typed verb argument →
      ¬ Text.IsOneLine argument → IsRefused typed (.lineBreak verb argument)

lemma types_iff : Types typed verb argument ↔
    ∃ rest, Says (Text.trim typed) verb rest ∧ Text.trim rest = argument := by
  constructor
  · rintro ⟨line, rest, htyped, hcut, hrest⟩
    rw [← Text.trim_eq_iff.2 htyped] at hcut
    exact ⟨rest, hcut, Text.trim_eq_iff.2 hrest⟩
  · rintro ⟨rest, hcut, hrest⟩
    exact ⟨_, rest, Text.trimsTo_trim typed, hcut, Text.trim_eq_iff.1 hrest⟩

/-! ## Making -/

/-- A command is made exactly of its verb, and of its argument with white space around it. -/
lemma make_eq_ok_iff : make verb argument = .ok c ↔ c.verb = verb ∧
    argument.TrimsTo c.argument := by
  rw [← Text.trim_eq_iff]
  constructor
  · intro h
    exact (make_eq_ok h).imp_right Eq.symm
  · rintro ⟨rfl, hargument⟩
    obtain ⟨verb, trimmed, htrimmed, hline⟩ := c
    obtain rfl : Text.trim argument = trimmed := hargument
    exact dif_pos hline

/-- A command is refused exactly if its argument is broken over lines, and for that cause. -/
lemma make_eq_error_iff {cause : Refusal} : make verb argument = .error cause ↔
    ∃ trimmed, argument.TrimsTo trimmed ∧ ¬ Text.IsOneLine trimmed ∧
      cause = .lineBreak verb trimmed := by
  simp only [← Text.trim_eq_iff, exists_eq_left', Text.isOneLine_iff_any]
  unfold make
  split
  · next hline => simp [hline]
  · next hline => simp [hline, eq_comm]

/-- A command is made of each verb, and of each argument that is on one line. -/
lemma exists_make_iff : (∃ c, make verb argument = .ok c) ↔
    ∃ trimmed, argument.TrimsTo trimmed ∧ Text.IsOneLine trimmed := by
  simp only [exists_make_iff_isOneLine, ← Text.trim_eq_iff, exists_eq_left']

/-! ## Reading -/

/-- A line that says a verb is read as the command of the verb and the rest. -/
lemma Says.read_eq (h : Says (Text.trim typed) verb rest) : read typed = make verb rest := by
  simp [read, says_iff.1 h]

/-- A line that says no verb is refused as such. -/
lemma read_of_unknown (h : ∀ verb rest, ¬ Says (Text.trim typed) verb rest) :
    read typed = .error (.unknownVerb (Text.trim typed)) := by
  have hword : Verb.ofWord? (Text.cutAtSpace (Text.trim typed)).1 = none := by
    rw [Option.eq_none_iff_forall_ne_some]
    intro verb hverb
    exact h verb _ (says_iff.2 (Prod.ext (Verb.ofWord?_eq_some_iff.1 hverb).symm rfl))
  simp [read, hword]

/-- A text is read as a command exactly if it says the verb and the argument of the command. -/
lemma read_eq_ok_iff : read typed = .ok c ↔ Types typed c.verb c.argument := by
  constructor
  · intro h
    by_cases hcut : ∃ verb rest, Says (Text.trim typed) verb rest
    · obtain ⟨verb, rest, hcut⟩ := hcut
      rw [hcut.read_eq] at h
      obtain ⟨rfl, hrest⟩ := make_eq_ok_iff.1 h
      exact types_iff.2 ⟨rest, hcut, Text.trim_eq_iff.2 hrest⟩
    · rw [read_of_unknown fun verb rest h => hcut ⟨verb, rest, h⟩] at h
      cases h
  · intro h
    obtain ⟨rest, hcut, hrest⟩ := types_iff.1 h
    rw [hcut.read_eq]
    exact make_eq_ok_iff.2 ⟨rfl, Text.trim_eq_iff.1 hrest⟩

/-- A text that is not read is refused for a cause that it gives, and no other. -/
lemma read_eq_error_iff {cause : Refusal} : read typed = .error cause ↔ IsRefused typed cause := by
  constructor
  · intro h
    by_cases hcut : ∃ verb rest, Says (Text.trim typed) verb rest
    · obtain ⟨verb, rest, hcut⟩ := hcut
      rw [hcut.read_eq] at h
      obtain ⟨argument, hrest, hbroken, rfl⟩ := make_eq_error_iff.1 h
      exact .lineBreak (types_iff.2 ⟨rest, hcut, Text.trim_eq_iff.2 hrest⟩) hbroken
    · have hnone : ∀ verb rest, ¬ Says (Text.trim typed) verb rest := fun verb rest h =>
        hcut ⟨verb, rest, h⟩
      rw [read_of_unknown hnone] at h
      obtain rfl := Except.error.inj h
      exact .unknownVerb (Text.trimsTo_trim typed) hnone
  · rintro (⟨htyped, hnone⟩ | ⟨htypes, hbroken⟩)
    · obtain rfl := Text.trim_eq_iff.2 htyped
      exact read_of_unknown hnone
    · obtain ⟨rest, hcut, hrest⟩ := types_iff.1 htypes
      rw [hcut.read_eq]
      exact make_eq_error_iff.2 ⟨_, Text.trim_eq_iff.1 hrest, hbroken, rfl⟩

/-- A text is read exactly if it says a verb and an argument on one line. -/
lemma exists_read_iff : (∃ c, read typed = .ok c) ↔
    ∃ verb argument, Types typed verb argument ∧ Text.IsOneLine argument := by
  constructor
  · rintro ⟨c, hc⟩
    exact ⟨c.verb, c.argument, read_eq_ok_iff.1 hc, c.isOneLine_argument⟩
  · rintro ⟨verb, argument, htypes, hline⟩
    obtain ⟨rest, hcut, hrest⟩ := types_iff.1 htypes
    rw [hcut.read_eq]
    exact exists_make_iff.2 ⟨argument, Text.trim_eq_iff.1 hrest, hline⟩

/-- The line ends behind a line do not count. -/
theorem read_dropEndWhile_isLineBreak (typed : Text) :
    read (Text.dropEndWhile Text.isLineBreak typed) = read typed := by
  rw [read, Text.trim_dropEndWhile_isLineBreak, ← read]

/-- **The grammar of lines.** A typed text is read exactly if it says a verb and an argument on one
line, and it is read as the command of the two.  Any other text is refused, for the cause that it
gives.  A command is made of a verb and an argument under the same condition on the argument.  The
line of every command is read as the command. -/
theorem read_grammar (typed : Text) :
    ((∃ c, read typed = .ok c) ↔
      ∃ verb argument, Types typed verb argument ∧ Text.IsOneLine argument) ∧
    (∀ c, read typed = .ok c ↔ Types typed c.verb c.argument) ∧
    (∀ cause, read typed = .error cause ↔ IsRefused typed cause) ∧
    (∀ verb, (∃ c, make verb typed = .ok c) ↔
      ∃ trimmed, typed.TrimsTo trimmed ∧ Text.IsOneLine trimmed) ∧
    (∀ verb c, make verb typed = .ok c ↔ c.verb = verb ∧ typed.TrimsTo c.argument) ∧
    (∀ verb cause, make verb typed = .error cause ↔
      ∃ trimmed, typed.TrimsTo trimmed ∧ ¬ Text.IsOneLine trimmed ∧
        cause = .lineBreak verb trimmed) ∧
    ∀ c : Command, read c.line = .ok c :=
  ⟨exists_read_iff, fun _ => read_eq_ok_iff, fun _ => read_eq_error_iff, fun _ => exists_make_iff,
    fun _ _ => make_eq_ok_iff, fun _ _ => make_eq_error_iff, read_line⟩

/-- Other spaces than U+0020 are dropped around the argument and line ends behind the line.  A tab
does not end the word of a verb.  A line feed inside the argument is refused. -/
theorem read_grammar_spaces :
    (∃ c, read "\tSET  \u00a0TT 10s \r\n".toList = .ok c) ∧
    IsRefused "SET\tTT 10s".toList (.unknownVerb "SET\tTT 10s".toList) ∧
    IsRefused "SET TT\n10s".toList (.lineBreak .set "TT\n10s".toList) := by
  have hargument : Text.TrimsTo " \u00a0TT 10s".toList "TT 10s".toList :=
    ⟨" \u00a0".toList, [], by decide⟩
  have htypes : Types "\tSET  \u00a0TT 10s \r\n".toList .set "TT 10s".toList :=
    ⟨"SET  \u00a0TT 10s".toList, _, ⟨"\t".toList, " \r\n".toList, by decide⟩, .followed .set _,
      hargument⟩
  exact ⟨(read_grammar _).1.2 ⟨_, _, htypes, by decide⟩,
    ((read_grammar _).2.2.1 _).1 (by decide), ((read_grammar _).2.2.1 _).1 (by decide)⟩

end TimingBoard.Command
