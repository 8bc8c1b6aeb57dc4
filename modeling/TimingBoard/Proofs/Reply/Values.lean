import TimingBoard.Proofs.Frame.Wire
import TimingBoard.Proofs.Reply.Judgement
import TimingBoard.Proofs.Request.Token

/-!
# The values of settings

The board writes the value of a setting behind its key, and the client cuts it out again with the
grammar of that key.  Here the two meet: the payload that was written shows the value, so that it is
the reply.  The grammars take the longest run of a class of characters, so each value must end where
its run ends: a time at its unit, a number at the end or at a space, and a name at the end.
-/

namespace TimingBoard

open Payload

/-- An ASCII value behind an ASCII key is read as it was sent. -/
lemma Frame.received_value {key value : Text} (hkey : Text.IsAscii key)
    (hvalue : Text.IsAscii value) :
    received ⟨.value, key ++ ' ' :: value⟩ = ⟨.value, key ++ ' ' :: value⟩ := by
  rw [received, Text.received_append, hkey.received_eq, Text.received_cons_of_ascii (by decide),
    hvalue.received_eq]

/-- A time that was read and has a unit starts a payload behind its key. -/
lemma Payload.startsWithTime_text {t : TimeText} {spelling : Text} {unit : TimeUnit}
    (h : TimeText.read spelling = .ok t) (hunit : t.unit = some unit) (key : TimingKey) :
    StartsWithTime (key.word ++ ' ' :: t.text) key t.magnitude unit := by
  obtain ⟨rest, x, hcut, hne, -, -, -⟩ := TimeText.read_eq_ok h
  have hmagnitude := isMagnitude_cutMagnitude (t := Text.trim spelling)
  rw [hcut] at hmagnitude
  refine ⟨hmagnitude hne, [], ?_⟩
  rw [TimeText.text, hunit]
  rfl

/-- A token is a run of its characters. -/
lemma Token.consists_of_isToken {token : Text} (h : isToken token = true) :
    Consists isCharacter token :=
  ⟨(isToken_iff.1 h).1, (isToken_iff.1 h).2⟩

namespace Reply

/-- A file name at the end of a sentence: behind a single space, or left out if it is empty. -/
def lastWord (filename : Text) : Text :=
  if filename = [] then [] else ' ' :: filename

/-- The last word of a sentence is cut out whole. -/
lemma startsWithMonitor_lastWord {saveRun countRun filename : Text}
    (hsave : Consists Text.isDecimalDigit saveRun) (hcount : Consists Text.isDecimalDigit countRun)
    (hfile : ∀ c ∈ filename, Token.isCharacter c = true) :
    StartsWithMonitor ("MONITOR ".toList ++ (saveRun ++ ' ' :: (countRun ++ lastWord filename)))
      saveRun countRun filename := by
  cases filename with
  | nil => exact ⟨[], [], rfl, hsave, hcount, stopsAt_nil, by simp, stopsAt_nil, hfile, stopsAt_nil⟩
  | cons c more =>
    -- The file name begins where the white space before it ends.
    exact ⟨[' '], [], by simp [lastWord], hsave, hcount, stopsAt_cons.2 (by decide), by decide,
      stopsAt_cons.2 (Token.isSpace_of_isCharacter (hfile c (by simp))), hfile, stopsAt_nil⟩

variable {c : Command} (hc : c.verb = .get)

include hc

/-- The value that a payload shows is the reply. -/
lemma ofFrames_of_shows {payload : Text} {reply : Reply} (h : ShowsSetting payload reply) :
    ofFrames c ⟨.value, payload⟩ [] = .ok reply :=
  (Judges.setting ⟨hc, rfl⟩ h).ofFrames_eq []

/-- The value of a timing setting is the time that was written. -/
lemma ofFrames_timing {t : TimeText} {spelling : Text} (h : TimeText.read spelling = .ok t)
    (hunit : t.unit.isSome = true) (key : TimingKey) :
    ofFrames c ⟨.value, key.word ++ ' ' :: t.text⟩ [] = .ok (.timing key t) := by
  obtain ⟨unit, hunit⟩ := Option.isSome_iff_exists.1 hunit
  obtain ⟨-, x, -, -, -, hx, hfinite⟩ := TimeText.read_eq_ok h
  have hvalue : t = ⟨t.magnitude, some unit⟩ := by rw [← hunit]
  refine ofFrames_of_shows hc ?_
  rw [hvalue]
  exact .timing (hvalue ▸ startsWithTime_text h hunit key) hx hfinite

/-- The value of the prefix is the prefix that was written, unless it is the word for none. -/
lemma ofFrames_filePrefix {value : Text}
    (h : value = [] ∨ (Token.isToken value = true ∧ value ≠ "NONE".toList)) :
    ofFrames c ⟨.value,
        "PREFIX".toList ++ ' ' :: (if value = [] then "NONE".toList else value)⟩ [] =
      .ok (.filePrefix value) := by
  have hshows {token : Text} (htoken : Token.isToken token = true) :
      ShowsSetting ("PREFIX".toList ++ ' ' :: token) _ :=
    .filePrefix (startsWithRun_append "PREFIX " (Token.consists_of_isToken htoken))
  refine ofFrames_of_shows hc ?_
  rcases h with rfl | ⟨htoken, hnone⟩
  · exact hshows (by decide)
  · rw [if_neg (Token.isToken_iff.1 htoken).1]
    have hvalue := hshows htoken
    rwa [if_neg hnone] at hvalue

/-- The value of the autosave interval is the number that was written. -/
lemma ofFrames_autosave (count : UInt32) :
    ofFrames c ⟨.value, "AUTOSAVE".toList ++ ' ' :: Natural.digits count.toNat⟩ [] =
      .ok (.autosave count) :=
  ofFrames_of_shows hc (.autosave (startsWithRun_append "AUTOSAVE " (consists_digits count.toNat))
    (Natural.readUInt32?_digits count))

/-- The value of a monitor is the monitor that was written, and none without file name when there is
none. -/
lemma ofFrames_monitor {monitor : Option Monitor}
    (h : ∀ m ∈ monitor, Token.isToken m.filename = true) :
    ofFrames c ⟨.value, "MONITOR".toList ++ ' ' :: Board.monitorWords monitor⟩ [] =
      .ok (.monitor (monitor.getD ⟨0, 0, []⟩)) := by
  refine ofFrames_of_shows hc ?_
  cases monitor with
  | none =>
    obtain ⟨_, -, hshows⟩ := monitor?_eq_some.1 (show monitor? ("MONITOR".toList ++
      ' ' :: Board.monitorWords none) = some (.monitor ⟨0, 0, []⟩) by decide)
    exact hshows
  | some m =>
    obtain ⟨hne, hfile⟩ := Token.isToken_iff.1 (h m rfl)
    have hpayload : "MONITOR".toList ++ ' ' :: Board.monitorWords (some m) = "MONITOR ".toList ++
        (Natural.digits m.save.toNat ++ ' ' ::
          (Natural.digits m.count.toNat ++ lastWord m.filename)) := by
      simp [Board.monitorWords, Board.spaced, lastWord, hne]
    rw [hpayload]
    exact .monitor (startsWithMonitor_lastWord (consists_digits _) (consists_digits _) hfile)
      (Natural.readUInt32?_digits m.save) (Natural.readUInt32?_digits m.count)

end Reply

end TimingBoard
