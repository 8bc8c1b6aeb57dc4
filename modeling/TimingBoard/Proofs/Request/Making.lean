import TimingBoard.Client.Basic
import TimingBoard.Proofs.Number.Digits
import TimingBoard.Proofs.Request.Line
import TimingBoard.Proofs.Request.Token

/-!
# Requests that are not refused

A request that is not refused is a command, with the verb it was made for and the argument without
the white space around it.  A request that needs a token is refused unless it has one.
-/

namespace TimingBoard

variable {α : Type}

lemma Token.require_eq_ok {role : TokenRole} {value : Text} :
    Token.require role value = .ok () ↔ Token.isToken value = true := by
  unfold Token.require
  split <;> simp_all

/-- What comes after a requirement is reached exactly when the value is a token. -/
lemma Token.require_bind_eq_ok {role : TokenRole} {value : Text} {x : Except Refusal α} {a : α} :
    (Token.require role value >>= fun _ => x) = .ok a ↔ Token.isToken value = true ∧ x = .ok a := by
  unfold Token.require
  split
  · next htoken => exact ⟨fun h => ⟨htoken, h⟩, fun h => h.2⟩
  · next htoken =>
    constructor
    · intro h
      exact absurd h (by simp [bind, Except.bind])
    · exact fun h => absurd h.1 htoken

/-- A made command has its verb and the argument without the white space around it. -/
lemma Command.make_eq_ok {verb : Verb} {argument : Text} {c : Command}
    (h : make verb argument = .ok c) : c.verb = verb ∧ c.argument = Text.trim argument := by
  unfold make at h
  split at h
  · obtain rfl := Except.ok.inj h
    exact ⟨rfl, rfl⟩
  · simp at h

/-- An argument that is trimmed and on one line is the argument of a command. -/
lemma Command.exists_make (verb : Verb) {argument : Text} (htrim : Text.trim argument = argument)
    (hline : argument.any Text.isLineBreak = false) :
    ∃ c, make verb argument = .ok c ∧ c.verb = verb ∧ c.argument = argument := by
  have hmake : make verb argument = .ok ⟨verb, argument, htrim, hline⟩ := by
    simp [make, htrim, hline]
  exact ⟨_, hmake, rfl, rfl⟩

/-- A command is made exactly if its argument, without the white space around it, is on one line. -/
lemma Command.exists_make_iff_isOneLine {verb : Verb} {argument : Text} :
    (∃ c, make verb argument = .ok c) ↔ Text.IsOneLine (Text.trim argument) := by
  rw [Text.isOneLine_iff_any]
  unfold make
  split
  · next hline => exact iff_of_true ⟨_, rfl⟩ hline
  · next hline => simp [hline]

/-- An argument on one line is the argument of a command, without the white space around it. -/
lemma Command.exists_make_of_isOneLine (verb : Verb) {argument : Text}
    (h : Text.IsOneLine argument) : ∃ c, make verb argument = .ok c := by
  have hsubset : Text.trim argument ⊆ argument :=
    List.Subset.trans (Text.trimEnd_isPrefix _).subset (List.dropWhile_sublist _).subset
  exact exists_make_iff_isOneLine.2 (h.of_subset hsubset)

/-- The key of a made command begins its argument. -/
lemma Command.key_isPrefix_of_make {verb : Verb} {argument : Text} {c : Command}
    (h : make verb argument = .ok c) (hspace : ∀ a ∈ argument.head?, Text.isSpace a = false) :
    (Text.cutAtSpace c.argument).1 <+: argument := by
  have hfirst : argument.dropWhile Text.isSpace = argument := by
    cases argument with
    | nil => rfl
    | cons a rest => simp [hspace a (by simp)]
  rw [(make_eq_ok h).2]
  refine (List.takeWhile_prefix _).trans ?_
  rw [Text.trim, hfirst]
  exact Text.trimEnd_isPrefix argument

/-- A prefix is requested exactly if it is a token. -/
lemma Setting.exists_request_filePrefix {value : Text} :
    (∃ command, (Setting.filePrefix value).request = .ok command) ↔ Token.isToken value = true := by
  constructor
  · rintro ⟨command, hrequest⟩
    exact (Token.require_bind_eq_ok.1 hrequest).1
  · intro htoken
    have hline : Text.IsOneLine ("PREFIX ".toList ++ value) :=
      Text.isOneLine_append.2 ⟨by decide, Token.isOneLine htoken⟩
    obtain ⟨command, hcommand⟩ := Command.exists_make_of_isOneLine .set hline
    exact ⟨command, Token.require_bind_eq_ok.2 ⟨htoken, hcommand⟩⟩

/-- A monitor is requested exactly if its file name is a token. -/
lemma Setting.exists_request_monitor {m : Monitor} :
    (∃ command, (Setting.monitor (some m)).request = .ok command) ↔
      Token.isToken m.filename = true := by
  constructor
  · rintro ⟨command, hrequest⟩
    exact (Token.require_bind_eq_ok.1 hrequest).1
  · intro htoken
    have hspace : Text.isLineBreak ' ' = false := by decide
    have hline : Text.IsOneLine ("MONITOR ".toList ++ Natural.digits m.save.toNat ++
        ' ' :: Natural.digits m.count.toNat ++ ' ' :: m.filename) := by
      simp only [Text.isOneLine_append, Text.isOneLine_cons, hspace, Natural.isOneLine_digits,
        Token.isOneLine htoken, and_true]
      decide
    obtain ⟨command, hcommand⟩ := Command.exists_make_of_isOneLine .set hline
    exact ⟨command, Token.require_bind_eq_ok.2 ⟨htoken, hcommand⟩⟩

/-- A change of a setting is made by a command that sets. -/
lemma Setting.verb_of_request {setting : Setting} {c : Command} (h : setting.request = .ok c) :
    c.verb = .set := by
  cases setting with
  | timing key value => exact (Command.make_eq_ok h).1
  | autosave count => exact (Command.make_eq_ok h).1
  | format number => exact (Command.make_eq_ok h).1
  | filePrefix value => exact (Command.make_eq_ok (Token.require_bind_eq_ok.1 h).2).1
  | monitor value =>
    cases value with
    | none => exact (Command.make_eq_ok h).1
    | some m => exact (Command.make_eq_ok (Token.require_bind_eq_ok.1 h).2).1

end TimingBoard
