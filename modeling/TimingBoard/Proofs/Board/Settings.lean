import TimingBoard.Proofs.Board.Answer
import TimingBoard.Proofs.Reply.Values
import TimingBoard.Proofs.Request.Making

/-!
# Settings of the board

A change that the board accepts puts exactly what the client was given in the place of one setting.
For a time this needs that it was made from a text or a number: then its text is one word, and the
board reads the very time from it that the client wrote.

A setting that is asked for comes back as it is stored, provided that it can be read back.  The
times of the board can, since the board has read them itself, and so can the prefix as long as it is
a token other than the word that stands for none.  In between the board may end a run that has
lasted the total time, and nothing else about the measurements happens.
-/

namespace TimingBoard

namespace Text

variable {word rest : Text}

/-- What follows a word after a space ends the text. -/
lemma getLast?_append_cons (word : Text) (hrest : rest ≠ []) :
    (word ++ ' ' :: rest).getLast? = rest.getLast? := by
  obtain ⟨c, hc⟩ := Option.ne_none_iff_exists'.1 (mt List.getLast?_eq_none_iff.1 hrest)
  rw [List.getLast?_append, List.getLast?_cons, hc, Option.getD_some, Option.some_or]

/-- A word and what follows it after a space are trimmed, unless white space is at the end. -/
lemma trim_append_cons (hword : ∀ c ∈ word, isSpace c = false) (hne : word ≠ [])
    (hrest : rest ≠ []) (hlast : ∀ c ∈ rest.getLast?, isSpace c = false) :
    trim (word ++ ' ' :: rest) = word ++ ' ' :: rest := by
  refine trim_eq_self_of_ends ?_ ?_
  · cases word with
    | nil => exact absurd rfl hne
    | cons c word => simpa using hword c (by simp)
  · rwa [getLast?_append_cons word hrest]

end Text

/-! ## Making changes -/

namespace Setting

/-- A change to a time needs a time that is made. -/
def IsMade : Setting → Prop
  | .timing _ value => value.IsMade
  | _ => True

end Setting

namespace Board

variable {b : Board} {c : Command}

lemma settableTime?_eq_some {value : Text} {t : TimeText} :
    settableTime? value = some t ↔ TimeText.read value = .ok t ∧ t.unit.isSome = true := by
  unfold settableTime?
  split
  · next t' hread =>
    rw [hread]
    split
    · next hunit =>
      constructor
      · intro h
        obtain rfl := Option.some.inj h
        exact ⟨rfl, hunit⟩
      · intro h
        rw [Except.ok.inj h.1]
    · next hunit =>
      constructor
      · intro h
        exact absurd h (by simp)
      · intro h
        obtain rfl := Except.ok.inj h.1
        exact absurd h.2 hunit
  · next hread => simp [hread]

/-- The key and the value of an argument that was made of them. -/
lemma cutAtSpace_argument {verb : Verb} {word value : Text}
    (h : Command.make verb (word ++ ' ' :: value) = .ok c)
    (hword : ∀ a ∈ word, Text.isSpace a = false) (hne : word ≠ []) (hvalue : value ≠ [])
    (hlast : ∀ a ∈ value.getLast?, Text.isSpace a = false) :
    Text.cutAtSpace c.argument = (word, value) := by
  have hspace : ' ' ∉ word := fun hmem => absurd (hword _ hmem) (by decide)
  rw [(Command.make_eq_ok h).2, Text.trim_append_cons hword hne hvalue hlast,
    Text.cutAtSpace_append hspace]

lemma getLast?_digits (n : Nat) : ∀ a ∈ (Natural.digits n).getLast?, Text.isSpace a = false :=
  fun _ ha => Text.isSpace_of_isDigit (Natural.isDigit_of_mem_digits (List.mem_of_mem_getLast? ha))

/-- The board finds the time that was made. -/
lemma cutAtSpace_timing {key : TimingKey} {value : TimeText} (hmade : value.IsMade)
    (h : (Setting.timing key value).request = .ok c) :
    Text.cutAtSpace c.argument = (key.word, value.text) := by
  refine cutAtSpace_argument h ?_ ?_ hmade.text_ne_nil ?_
  · cases key <;> decide
  · cases key <;> decide
  · exact fun a ha => hmade.isSpace_of_mem a (List.mem_of_mem_getLast? ha)

/-- The board finds the three words of a monitor again. -/
lemma monitor?_append (m : Monitor) (h : Token.isToken m.filename = true) :
    monitor? (Natural.digits m.save.toNat ++ ' ' :: (Natural.digits m.count.toNat ++
      ' ' :: m.filename)) = some m := by
  have hdigits (n : Nat) : ∀ a ∈ Natural.digits n, Text.isSpace a = false :=
    fun _ ha => Text.isSpace_of_isDigit (Natural.isDigit_of_mem_digits ha)
  rw [monitor?, Text.words_append (Natural.digits_ne_nil _) (hdigits _),
    Text.words_append (Natural.digits_ne_nil _) (hdigits _),
    Text.words_of_forall (Token.isToken_iff.1 h).1 (Token.isSpace_of_mem h)]
  simp [Natural.readUInt32?_digits]

end Board

namespace Setting

open Board

variable {setting : Setting} {c : Command}

/-- A change that the board can make: a time must be one that it can set. -/
def IsSettable : Setting → Prop
  | .timing _ value => settableTime? value.text = some value
  | _ => True

/-- The board reads a change that it can make from the command for it. -/
lemma isReadFrom_of_request (h : setting.request = .ok c) (hsettable : setting.IsSettable) :
    setting.IsReadFrom (Text.cutAtSpace c.argument).1 (Text.cutAtSpace c.argument).2 := by
  cases setting with
  | timing key value =>
    have hmade : value.IsMade := Or.inl ⟨_, (settableTime?_eq_some.1 hsettable).1⟩
    rw [cutAtSpace_timing hmade h]
    exact ⟨TimingKey.ofWord?_word key, hsettable⟩
  | filePrefix value =>
    obtain ⟨htoken, hmake⟩ := Token.require_bind_eq_ok.1 h
    have hne := (Token.isToken_iff.1 htoken).1
    have hcut : Text.cutAtSpace c.argument = ("PREFIX".toList, value) :=
      cutAtSpace_argument hmake (by decide) (by decide) hne
        fun a ha => Token.isSpace_of_mem htoken a (List.mem_of_mem_getLast? ha)
    rw [hcut]
    exact ⟨rfl, rfl, hne⟩
  | autosave count =>
    have hcut : Text.cutAtSpace c.argument = ("AUTOSAVE".toList, Natural.digits count.toNat) :=
      cutAtSpace_argument h (by decide) (by decide) (Natural.digits_ne_nil _) (getLast?_digits _)
    rw [hcut]
    exact ⟨rfl, Natural.readUInt32?_digits count⟩
  | format number =>
    have hcut : Text.cutAtSpace c.argument = ("FORMAT".toList, Natural.digits number.toNat) :=
      cutAtSpace_argument h (by decide) (by decide) (Natural.digits_ne_nil _) (getLast?_digits _)
    rw [hcut]
    exact ⟨rfl, Natural.readUInt32?_digits number⟩
  | monitor monitor =>
    cases monitor with
    | none =>
      have hargument : c.argument = "NOMONITOR".toList := (Command.make_eq_ok h).2.trans (by decide)
      have hcut : Text.cutAtSpace "NOMONITOR".toList = ("NOMONITOR".toList, []) := by decide
      rw [hargument, hcut]
      exact rfl
    | some m =>
      obtain ⟨htoken, hmake⟩ := Token.require_bind_eq_ok.1 h
      have hne := (Token.isToken_iff.1 htoken).1
      have hwords : Command.make .set ("MONITOR".toList ++ ' ' :: (Natural.digits m.save.toNat ++
          ' ' :: (Natural.digits m.count.toNat ++ ' ' :: m.filename))) = .ok c := by
        rw [← hmake]
        simp
      have hcut : Text.cutAtSpace c.argument = ("MONITOR".toList, Natural.digits m.save.toNat ++
          ' ' :: (Natural.digits m.count.toNat ++ ' ' :: m.filename)) := by
        refine cutAtSpace_argument hwords (by decide) (by decide) (by simp) ?_
        rw [Text.getLast?_append_cons _ (by simp), Text.getLast?_append_cons _ hne]
        exact fun a ha => Token.isSpace_of_mem htoken a (List.mem_of_mem_getLast? ha)
      rw [hcut]
      exact ⟨rfl, monitor?_append m htoken⟩

/-- No more than one change is read from a key and a value. -/
lemma IsReadFrom.eq {other : Setting} {key value : Text} (h : setting.IsReadFrom key value)
    (hother : other.IsReadFrom key value) : setting = other := by
  have hwords : ∀ word ∈ ["PREFIX", "AUTOSAVE", "FORMAT", "MONITOR", "NOMONITOR"],
      TimingKey.ofWord? word.toList = none := by decide
  simp only [List.forall_mem_cons] at hwords
  rcases setting with ⟨timing, t⟩ | name | count | number | _ | m <;>
    rcases other with ⟨timing', t'⟩ | name' | count' | number' | _ | m' <;> simp_all [IsReadFrom]

end Setting

namespace Board

variable {b : Board} {c : Command}

/-- A change that the board can make is accepted and made. -/
lemma answerSet_of_isSettable {setting : Setting} (h : setting.request = .ok c)
    (hsettable : setting.IsSettable) (b : Board) :
    b.answerSet c.argument = (accepted, setting.apply b) :=
  answerSet_of_isReadFrom rfl (Setting.isReadFrom_of_request h hsettable) b

/-- **Changes.** A change is accepted and made, or the board refuses it and stays as it is. -/
theorem answerSet_request {setting : Setting} (hmade : setting.IsMade)
    (h : setting.request = .ok c) (b : Board) :
    b.answerSet c.argument = (accepted, setting.apply b) ∨
      b.answerSet c.argument = (rejected "2:BAD_TIMESTRING", b) := by
  cases setting with
  | timing key value =>
    cases hvalue : settableTime? value.text with
    | none =>
      right
      unfold answerSet
      rw [cutAtSpace_timing hmade h]
      simp only [TimingKey.ofWord?_word, hvalue]
    | some t =>
      obtain ⟨hread, hunit⟩ := settableTime?_eq_some.1 hvalue
      obtain rfl : t = value := hmade.eq_of_read hread hunit
      exact Or.inl (answerSet_of_isSettable h hvalue b)
  | _ => exact Or.inl (answerSet_of_isSettable h trivial b)

/-! ## Boards with the same settings -/

lemma SameSettings.refl (b : Board) : SameSettings b b :=
  ⟨fun _ => rfl, rfl, rfl, rfl, rfl, rfl, rfl, rfl⟩

lemma SameSettings.symm {b' : Board} (h : SameSettings b b') : SameSettings b' b :=
  ⟨fun key => (h.timing key).symm, h.filePrefix.symm, h.autosave.symm, h.format.symm,
    h.monitor.symm, h.agents.symm, h.mute.symm, h.noisy.symm⟩

lemma SameSettings.trans {b₁ b₂ b₃ : Board} (h : SameSettings b₁ b₂) (h' : SameSettings b₂ b₃) :
    SameSettings b₁ b₃ :=
  ⟨fun key => (h'.timing key).trans (h.timing key), h'.filePrefix.trans h.filePrefix,
    h'.autosave.trans h.autosave, h'.format.trans h.format, h'.monitor.trans h.monitor,
    h'.agents.trans h.agents, h'.mute.trans h.mute, h'.noisy.trans h.noisy⟩

/-- The same change makes the same settings of the same settings. -/
lemma SameSettings.apply {b' : Board} (h : SameSettings b b') (setting : Setting) :
    SameSettings (setting.apply b) (setting.apply b') := by
  cases setting with
  | timing key value =>
    constructor
    · intro other
      simp only [Setting.apply, timing_setTiming, h.timing]
    · cases key <;> exact h.filePrefix
    · cases key <;> exact h.autosave
    · cases key <;> exact h.format
    · cases key <;> exact h.monitor
    · cases key <;> exact h.agents
    · cases key <;> exact h.mute
    · cases key <;> exact h.noisy
  | filePrefix value =>
    exact ⟨h.timing, rfl, h.autosave, h.format, h.monitor, h.agents, h.mute, h.noisy⟩
  | autosave count =>
    exact ⟨h.timing, h.filePrefix, rfl, h.format, h.monitor, h.agents, h.mute, h.noisy⟩
  | format number =>
    exact ⟨h.timing, h.filePrefix, h.autosave, rfl, h.monitor, h.agents, h.mute, h.noisy⟩
  | monitor value =>
    exact ⟨h.timing, h.filePrefix, h.autosave, h.format, rfl, h.agents, h.mute, h.noisy⟩

/-! ## Runs that end by themselves -/

/-- What becomes of a run while no command about measurements comes: it goes on, or it ends when it
has lasted the total time, which is one of those that the board has had. -/
inductive RunsOn (total : TimeText → Prop) (b b' : Board) : Prop
  | same : b'.measurements = b.measurements → b'.runningSince = b.runningSince → RunsOn total b b'
  | expired {start now : Instant} {t : TimeText} : b.runningSince = some start →
      b'.runningSince = none → b'.measurements = b.measurements ++ [startsOf (now.since start)] →
      total t → t.span.nanos ≠ 0 → t.span.nanos ≤ (now.since start).nanos → RunsOn total b b'

variable {total : TimeText → Prop} {b' b'' : Board}

/-- Only the measurements and the run in progress matter. -/
lemma RunsOn.congr (h : RunsOn total b b') (hmeasurements : b''.measurements = b'.measurements)
    (hrunning : b''.runningSince = b'.runningSince) : RunsOn total b b'' := by
  cases h with
  | same hm hr => exact .same (hmeasurements.trans hm) (hrunning.trans hr)
  | expired hstart hended hm htotal hpositive hlasted =>
    exact .expired hstart (hrunning.trans hended) (hmeasurements.trans hm) htotal hpositive hlasted

/-- A run that is over is ended by its total time. -/
lemma RunsOn.expire (h : RunsOn total b b') (htotal : total b'.totalTime) (now : Instant) :
    RunsOn total b (b'.expire now) := by
  unfold Board.expire
  split
  · next hover =>
    rcases hrun : b'.runningSince with _ | start
    · simp [isOver, hrun] at hover
    · simp only [isOver, hrun, Bool.and_eq_true, decide_eq_true_eq] at hover
      simp only [endRun, hrun]
      cases h with
      | same hm hr =>
        refine .expired (hr.symm.trans hrun) rfl ?_ htotal hover.1 hover.2
        rw [hm]
      | expired _ hended => exact absurd (hended.symm.trans hrun) (by simp)
  · exact h

/-- Preparing for a line ends a run that is over, and does nothing else to the measurements. -/
lemma RunsOn.prepared (h : RunsOn total b b') (htotal : total b'.totalTime) (now : Instant)
    (line : Text) : RunsOn total b (b'.prepared now line) := by
  have hnoted : RunsOn total b { b' with received := b'.received ++ [line] } := h.congr rfl rfl
  exact hnoted.expire htotal now

/-- A change of a setting does nothing to the measurements. -/
lemma RunsOn.apply (h : RunsOn total b b') (setting : Setting) :
    RunsOn total b (setting.apply b') := by
  cases setting with
  | timing key value => cases key <;> exact h.congr rfl rfl
  | filePrefix value => exact h.congr rfl rfl
  | autosave count => exact h.congr rfl rfl
  | format number => exact h.congr rfl rfl
  | monitor value => exact h.congr rfl rfl

/-! ## Reading settings -/

/-- A change that is read from a text leaves times that are read from texts. -/
lemma settableTimes_apply {setting : Setting} {word text : Text}
    (h : ∀ key, ∃ value, settableTime? value = some (b.timing key))
    (hread : setting.IsReadFrom word text) (key : TimingKey) :
    ∃ value, settableTime? value = some ((setting.apply b).timing key) := by
  cases setting with
  | timing changed t =>
    rw [Setting.apply, timing_setTiming]
    split
    · exact ⟨text, hread.2⟩
    · exact h key
  | _ => exact h key

/-- A board whose times and prefix can be read back. -/
structure IsReadable (b : Board) : Prop where
  timing (key : TimingKey) : ∃ value, settableTime? value = some (b.timing key)
  filePrefix : b.filePrefix = [] ∨
    (Token.isToken b.filePrefix = true ∧ b.filePrefix ≠ "NONE".toList)

lemma IsReadable.of_sameSettings (h : b.IsReadable) (hsame : SameSettings b b') :
    b'.IsReadable := by
  constructor
  · intro key
    rw [hsame.timing]
    exact h.timing key
  · rw [hsame.filePrefix]
    exact h.filePrefix

/-- A board whose settings were made by typed calls: times that were read, and names that are
tokens, the word that stands for none among them. -/
structure HasTypedSettings (b : Board) : Prop where
  timing (key : TimingKey) : ∃ value, settableTime? value = some (b.timing key)
  filePrefix : b.filePrefix = [] ∨ Token.isToken b.filePrefix = true
  monitor : ∀ m ∈ b.monitor, Token.isToken m.filename = true

lemma HasTypedSettings.of_sameSettings (h : b.HasTypedSettings) (hsame : SameSettings b b') :
    b'.HasTypedSettings := by
  constructor
  · intro key
    rw [hsame.timing]
    exact h.timing key
  · rw [hsame.filePrefix]
    exact h.filePrefix
  · rw [hsame.monitor]
    exact h.monitor

/-- A command whose answer is one frame with the value of a setting, from which a reply is read. -/
structure Gives (c : Command) (b : Board) (reply : Reply) : Prop where
  verb : c.verb = .get
  isAnswer : IsAnswer c (b.answerGet c.argument)
  exists_frame : ∃ f, b.answerGet c.argument = [f] ∧ Reply.ofFrames c f.received [] = .ok reply

/-- An ASCII value behind its key gives what is read from it. -/
lemma gives_of_value {key value : Text} {reply : Reply} (hverb : c.verb = .get)
    (hget : b.answerGet c.argument = valueOf key value)
    (hkey : Text.IsAscii key ∧ ' ' ∉ key ∧ Text.IsOneLine key) (hagents : key ≠ "AGENTS".toList)
    (hlist : key ≠ "LST".toList) (hstatistics : key ≠ "STAT".toList) (hvalue : Text.IsAscii value)
    (hline : Text.IsOneLine value)
    (hreply : Reply.ofFrames c ⟨.value, key ++ ' ' :: value⟩ [] = .ok reply) :
    Gives c b reply := by
  refine ⟨hverb, ?_, _, hget, ?_⟩
  · rw [hget]
    exact isAnswer_valueOf hkey.1 hkey.2.1 hkey.2.2 hline hagents hlist hstatistics
  · rwa [Frame.received_value hkey.1 hvalue]

/-- A board gives its times. -/
lemma HasTypedSettings.gives_timing (h : b.HasTypedSettings) {key : TimingKey}
    (hverb : c.verb = .get)
    (hargument : c.argument = key.word) : Gives c b (.timing key (b.timing key)) := by
  obtain ⟨value, hvalue⟩ := h.timing key
  obtain ⟨hread, hunit⟩ := settableTime?_eq_some.1 hvalue
  have hget : b.answerGet c.argument = valueOf key.word (b.timing key).text := by
    rw [hargument, answerGet, TimingKey.ofWord?_word]
  refine gives_of_value hverb hget ?_ ?_ ?_ ?_ (TimeText.isAscii_text_of_read hread)
    (TimeText.isOneLine_of_read hread) (Reply.ofFrames_timing hverb hread hunit key)
  all_goals cases key <;> decide

/-- The prefix as a board shows it: the word that stands for none is none. -/
def shownPrefix (b : Board) : Text :=
  if b.filePrefix = "NONE".toList then [] else b.filePrefix

lemma IsReadable.shownPrefix_eq (h : b.IsReadable) : b.shownPrefix = b.filePrefix := by
  refine if_neg fun hnone => ?_
  rcases h.filePrefix with hempty | ⟨-, hother⟩
  · exact absurd (hempty.symm.trans hnone) (by decide)
  · exact hother hnone

/-- A board gives its prefix as it shows it, if it is a token. -/
lemma gives_filePrefix (h : b.filePrefix = [] ∨ Token.isToken b.filePrefix = true)
    (hverb : c.verb = .get) (hargument : c.argument = "PREFIX".toList) :
      Gives c b (.filePrefix b.shownPrefix) := by
  have hshown : b.shownPrefix = [] ∨
      (Token.isToken b.shownPrefix = true ∧ b.shownPrefix ≠ "NONE".toList) := by
    unfold shownPrefix
    split
    · exact Or.inl rfl
    · next hother => exact h.imp_right fun htoken => ⟨htoken, hother⟩
  have hget : b.answerGet c.argument = valueOf "PREFIX".toList
      (if b.shownPrefix = [] then "NONE".toList else b.shownPrefix) := by
    have hanswer : b.answerGet "PREFIX".toList = valueOf "PREFIX".toList
        (if b.filePrefix = [] then "NONE".toList else b.filePrefix) := rfl
    rw [hargument, hanswer, shownPrefix]
    by_cases hnone : b.filePrefix = "NONE".toList
    · rw [if_pos hnone, if_pos rfl, hnone, if_neg (by decide)]
    · rw [if_neg hnone]
  refine gives_of_value hverb hget (by decide) (by decide) (by decide) (by decide) ?_ ?_
    (Reply.ofFrames_filePrefix hverb hshown)
  · split
    · decide
    · next hne => exact Token.isAscii (hshown.resolve_left hne).1
  · split
    · decide
    · next hne =>
      intro a ha
      exact Text.isLineBreak_of_isSpace
        (Token.isSpace_of_mem (hshown.resolve_left hne).1 a ha)

/-- Every board gives its autosave interval. -/
lemma gives_autosave (hverb : c.verb = .get) (hargument : c.argument = "AUTOSAVE".toList) :
    Gives c b (.autosave b.autosave) := by
  have hget : b.answerGet c.argument =
      valueOf "AUTOSAVE".toList (Natural.digits b.autosave.toNat) := by
    rw [hargument]
    rfl
  exact gives_of_value hverb hget (by decide) (by decide) (by decide) (by decide)
    (Natural.isAscii_digits _) (Natural.isOneLine_digits _) (Reply.ofFrames_autosave hverb _)

/-- A board gives its monitor, if its file name is a token, and one without file name when there is
none. -/
lemma gives_monitor (h : ∀ m ∈ b.monitor, Token.isToken m.filename = true) (hverb : c.verb = .get)
    (hargument : c.argument = "MONITOR".toList) :
    Gives c b (.monitor (b.monitor.getD ⟨0, 0, []⟩)) := by
  have hget : b.answerGet c.argument = valueOf "MONITOR".toList (monitorWords b.monitor) := by
    rw [hargument]
    rfl
  have hascii : Text.IsAscii (monitorWords b.monitor) := by
    cases hm : b.monitor with
    | none => decide
    | some m =>
      refine Text.forall_mem_join (by decide) ?_
      simp only [List.forall_mem_cons]
      exact ⟨Natural.isAscii_digits _, Natural.isAscii_digits _, Token.isAscii (h m hm),
        by simp⟩
  have hline : Text.IsOneLine (monitorWords b.monitor) := by
    refine isOneLine_monitorWords fun m hm a ha => ?_
    exact Text.isLineBreak_of_isSpace (Token.isSpace_of_mem (h m hm) a ha)
  exact gives_of_value hverb hget (by decide) (by decide) (by decide) (by decide) hascii hline
    (Reply.ofFrames_monitor hverb h)

end Board

end TimingBoard
