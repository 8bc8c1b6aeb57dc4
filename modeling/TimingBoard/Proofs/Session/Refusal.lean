import TimingBoard.Proofs.Session.Verdict

/-!
# Refusals

A request is refused when it is put together: its text does not make a command.  A session is given
commands, and whatever becomes of them it does not refuse them.  Only a typed line can be refused,
and then nothing is done.
-/

namespace TimingBoard

variable {L σ α β : Type}

namespace Call

/-- A call that does not fail by a refusal. -/
def NeverRefuses (call : Call σ α) : Prop :=
  ∀ s cause, (call.run s).1 ≠ .error (.refused cause)

lemma neverRefuses_ofExcept {x : Except Error α} (h : IsJudgement x) :
    NeverRefuses (σ := σ) (ofExcept x) := by
  intro s cause hx
  rw [run_ofExcept] at hx
  exact h _ hx

lemma NeverRefuses.bind {call : Call σ α} {next : α → Call σ β} (h : NeverRefuses call)
    (hnext : ∀ a, NeverRefuses (next a)) : NeverRefuses (call >>= next) := by
  intro s cause
  rcases hcall : call.run s with ⟨e | a, s'⟩
  · rw [run_bind_of_error hcall]
    have hfirst := h s cause
    rw [hcall] at hfirst
    exact fun herror => hfirst (congrArg Except.error (Except.error.inj herror))
  · rw [run_bind_of_ok hcall]
    exact hnext a s' cause

lemma NeverRefuses.map {call : Call σ α} (h : NeverRefuses call) (f : α → β) :
    NeverRefuses (f <$> call) :=
  h.bind fun a => neverRefuses_ofExcept (isJudgement_ok (f a))

lemma compatible_neverRefuses :
    Compatible fun (call : Call σ _) (_ : Call Unit _) => NeverRefuses call where
  ofExcept := neverRefuses_ofExcept
  bind := NeverRefuses.bind

end Call

/-! ## Sessions -/

namespace Session

open Call (NeverRefuses)

lemma neverRefuses_ensureConnected : NeverRefuses (ensureConnected (L := L)) := by
  intro s cause
  cases hconnected : s.connected <;> simp [ensureConnected, Call.run, hconnected]

lemma neverRefuses_note (silent : Bool) (entry : LogEntry) :
    NeverRefuses (note (L := L) silent entry) := by
  intro s cause
  simp [run_note]

variable [Link L]

lemma neverRefuses_setWait (wait : Span) : NeverRefuses (setWait (L := L) wait) := by
  intro s cause herror
  obtain ⟨_, _, _, hnetwork, -⟩ := setWait_run_of_error herror
  cases hnetwork

lemma neverRefuses_transmit (bytes : Bytes) : NeverRefuses (transmit (L := L) bytes) := by
  intro s cause
  rcases hwrite : Link.write bytes s.link with ⟨fault | ⟨⟩, link⟩
  · simp [transmit, Call.run, hwrite, lose]
  · rcases hflush : Link.flush link with ⟨fault | ⟨⟩, link'⟩ <;>
      simp [transmit, Call.run, hwrite, hflush, lose]

lemma neverRefuses_awaitFrame : NeverRefuses (awaitFrame (L := L)) := by
  intro s cause
  change (awaitFrame s).1 ≠ _
  fun_induction awaitFrame s with
  | case3 _ _ _ _ _ _ _ ih => exact ih
  | case4 _ _ _ _ _ _ _ ih => exact ih
  | _ => simp [lose]

lemma neverRefuses_send (command : Command) : NeverRefuses (send (L := L) command) :=
  neverRefuses_ensureConnected.bind fun _ => neverRefuses_transmit _

lemma neverRefuses_readFrame : NeverRefuses (readFrame (L := L)) :=
  neverRefuses_ensureConnected.bind fun _ => neverRefuses_awaitFrame

/-- A session executes whatever command there is. -/
lemma neverRefuses_execute (command : Command) (silent : Bool) :
    NeverRefuses (execute (L := L) command silent) := by
  have hdecode (frame : Frame) : NeverRefuses (Reply.decode (readFrame (L := L)) command frame) :=
    @Call.Compatible.decode (Session L) Unit _ Call.compatible_neverRefuses readFrame
      (Call.fail .timeout) neverRefuses_readFrame command frame
  exact (neverRefuses_send command).bind fun _ => (neverRefuses_note silent _).bind fun _ =>
    neverRefuses_readFrame.bind fun frame => (neverRefuses_note silent _).bind fun _ =>
      hdecode frame

end Session

namespace SessionUse

variable [Link L] {s : Session L} {cause : Refusal}

/-- A use that is refused is a typed line that is no command. -/
lemma eq_executeLine_of_refused {use : SessionUse}
    (h : (use.perform.run s).1 = .error (.refused cause)) :
    ∃ typed silent, use = act (.executeLine typed silent) ∧ Command.read typed = .error cause := by
  cases use with
  | act what =>
    have hwhat : (what.perform.run s).1 = .error (.refused cause) := Call.run_map_eq_error.1 h
    cases what with
    | send command => exact absurd hwhat ((Session.neverRefuses_send command).map _ s cause)
    | readFrame => exact absurd hwhat (Session.neverRefuses_readFrame.map _ s cause)
    | execute command silent =>
      exact absurd hwhat ((Session.neverRefuses_execute command silent).map _ s cause)
    | executeLine typed silent =>
      refine ⟨typed, silent, rfl, ?_⟩
      have hline := Call.run_map_eq_error.1 hwhat
      cases hread : Command.read typed with
      | error other =>
        simp only [Session.executeLine, hread] at hline
        exact congrArg _ (Error.refused.inj (Except.error.inj hline))
      | ok command =>
        simp only [Session.executeLine, hread] at hline
        exact absurd hline (Session.neverRefuses_execute command silent s cause)
  | setWait wait => exact absurd h ((Session.neverRefuses_setWait wait).map _ s cause)

/-- A use that is refused leaves the session as it is. -/
lemma run_of_refused {use : SessionUse} (h : (use.perform.run s).1 = .error (.refused cause)) :
    (use.perform.run s).2 = s := by
  obtain ⟨typed, silent, rfl, hread⟩ := eq_executeLine_of_refused h
  rw [perform, Call.run_map_snd, SessionAct.perform, Call.run_map_snd, Session.executeLine, hread]
  rfl

end SessionUse

end TimingBoard
