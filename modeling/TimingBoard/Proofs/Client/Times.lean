import TimingBoard.Proofs.Client.Transfer
import TimingBoard.Proofs.Json.Configurations

/-!
# Times on their way out

A time that can be had leaves the client in two ways: on the line that sets it, and in a
configuration that is written as JSON.  Neither way looks at it again.  So a time that is not legal
reaches the board, in a line that the grammar of times does not know, and it spoils the
configuration that holds it, which is written but never read again.

The only such times are those of numbers that are not finite or have a minus sign.  The times that
were read, and the time that leaves its setting alone, are legal.
-/

namespace TimingBoard

/-! ## The line of a time -/

namespace Client

variable {L : Type} [Link L] {t : TimeText}

/-- The line of a time is written whole, or nothing is and the change fails.  It is written whole if
the client is still connected then. -/
lemma written_set_timing (h : t.IsMade) (key : TimingKey) (client : Client (Observed L)) :
    let after := (Client.set (.timing key t)).run client
    let line := Text.toUtf8 ((Setting.timing key t).line ++ ['\n'])
    (after.2.session.written = client.session.written ++ line ∨
      after.2.session.written = client.session.written ∧ ∃ e, after.1 = .error e) ∧
    (after.2.session.connected = true →
      after.2.session.written = client.session.written ++ line) := by
  intro after line
  obtain ⟨command, hrequest⟩ := Setting.exists_request_timing h key
  have hmade : (Setting.timing key t).IsMade := h
  have hline : command.line = (Setting.timing key t).line := Setting.line_of_request hmade hrequest
  have hbytes : command.encode = line := by rw [Command.encode, hline]
  have hafter : after = _ := set_run hrequest client
  rw [hafter, ← hbytes]
  refine ⟨?_, Session.written_execute command false⟩
  rcases Session.written_execute_or command false client.session with hwhole | ⟨hnothing, e, herror⟩
  · exact .inl hwhole
  · exact .inr ⟨hnothing, e, by rw [herror]; rfl⟩

end Client

/-! ## Legal times -/

namespace TimeText

/-- **Which times are legal.** A time that can be had is legal unless it is the time of a number
that is not finite or has a minus sign.  Its text is read only as the time, and it has the form of a
time exactly if the time is legal.  Legal or not, the text is on the line that sets the time.  A
configuration with such times is read back from its JSON, compact or pretty, and from its file,
exactly if all its times are legal. -/
theorem legality {t : TimeText} (hbuilt : t.IsBuilt) :
    (t.IsLegal ↔ ∀ x unit, x.IsRepresentable → t = ofNumber x unit →
      ∃ units, x = .finite false units) ∧
    (∀ r, read t.text = .ok r ↔ r = t ∧ t.IsLegal) ∧
    (t.IsLegal ↔ ∃ magnitude letter, HasForm t.text magnitude letter) ∧
    (∀ (L : Type) [Link L] (client : Client (Observed L)) (key : TimingKey),
      let after := (Client.set (.timing key t)).run client
      let line := Text.toUtf8 ("SET ".toList ++ (key.word ++ ' ' :: t.text) ++ ['\n'])
      (after.2.session.written = client.session.written ++ line ∨
        after.2.session.written = client.session.written ∧ ∃ e, after.1 = .error e) ∧
      (after.2.session.connected = true →
        after.2.session.written = client.session.written ++ line)) ∧
    ∀ c : Configuration, c.HasTimes IsBuilt → ∀ r,
      ((Json.read? c.toJson.compact).bind Configuration.ofJson? = some r ↔
        r = c ∧ c.HasTimes IsLegal) ∧
      ((Json.read? c.toJson.pretty).bind Configuration.ofJson? = some r ↔
        r = c ∧ c.HasTimes IsLegal) ∧
      (Configuration.ofFile? (Text.toUtf8 c.toJson.pretty) = some r ↔
        r = c ∧ c.HasTimes IsLegal) := by
  refine ⟨?_, fun r => hbuilt.read_text_eq_ok_iff, hbuilt.isLegal_iff_hasForm, ?_,
    fun c htimes r => Configuration.read_written_iff htimes⟩
  · constructor
    · rintro hlegal x unit hx rfl
      exact (isLegal_ofNumber_iff hx).1 hlegal
    · intro hfinite
      rcases hbuilt.isLegal_or with hlegal | ⟨x, unit, hx, hsame, hnot⟩
      · exact hlegal
      · obtain ⟨units, hunits⟩ := hfinite x unit hx hsame
        exact absurd hunits (hnot units)
  · intro L _ client key
    exact Client.written_set_timing hbuilt.isMade key client

/-- The time of two and a half minutes that is made of a number. -/
def halfMinutes : TimeText := ofNumber (.ofDecimal false 25 (-1)) .minutes

/-- Two and a half minutes are legal and are set, and the file of a configuration with them is
read. -/
theorem legality_halfMinutes :
    halfMinutes.IsBuilt ∧ halfMinutes.IsLegal ∧
      ((Client.set (.timing .totalTime halfMinutes)).run
        ClientUse.acceptedClient.observed).2.session.written = Text.toUtf8 "SET TT 2.5M\n".toList ∧
      let c := { Configuration.unchanged with totalTime := halfMinutes }
      c.HasTimes IsBuilt ∧ Configuration.ofFile? (Text.toUtf8 c.toJson.pretty) = some c := by
  have hbuilt : halfMinutes.IsBuilt := .fromNumber _ Binary64.isRepresentable_ofDecimal
  obtain ⟨-, hread, -, hset, hfile⟩ := legality hbuilt
  have hlegal : halfMinutes.IsLegal := ((hread halfMinutes).1 (by decide +kernel)).2
  have hwritten := (hset Script ClientUse.acceptedClient.observed .totalTime).2 (by decide +kernel)
  have htimes : { Configuration.unchanged with totalTime := halfMinutes }.HasTimes IsBuilt :=
    ⟨hbuilt, .leftAlone, .leftAlone⟩
  refine ⟨hbuilt, hlegal, ?_, htimes, ?_⟩
  · rw [hwritten]
    decide +kernel
  · exact (hfile _ htimes _).2.2.2 ⟨rfl, hlegal, isLegal_unchanged, isLegal_unchanged⟩

/-- The time of a zero with a minus sign. -/
def minusZero : TimeText := ofNumber (.finite true 0) .seconds

/-- A zero with a minus sign makes a time that is not read back.  It is set nevertheless, and it
spoils the file of its configuration. -/
theorem not_isLegal_minusZero :
    minusZero.IsBuilt ∧ ¬ minusZero.IsLegal ∧
      TimeText.read minusZero.text = .error (.notATime "-0s".toList) ∧
      ((Client.set (.timing .totalTime minusZero)).run
        ClientUse.acceptedClient.observed).2.session.written = Text.toUtf8 "SET TT -0s\n".toList ∧
      let c := { Configuration.unchanged with totalTime := minusZero }
      Configuration.ofFile? (Text.toUtf8 c.toJson.pretty) = none := by
  refine ⟨.fromNumber _ ?_, by decide +kernel, by decide +kernel, by decide +kernel,
    by decide +kernel⟩
  exact Binary64.isRepresentable_zero

end TimeText

end TimingBoard
