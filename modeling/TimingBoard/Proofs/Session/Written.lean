import TimingBoard.Proofs.Session.Verdict

/-!
# What a session writes

A session writes nothing but commands.  What is done with it says which ones: a command that is sent
or executed, and the command of a typed line if it is one.  As long as the session stays connected,
each of them is written whole, and in the order in which they were sent.  Reading frames, taking
notes and setting the wait write nothing.
-/

namespace TimingBoard

variable {L : Type}

/-- The bytes that an event has written. -/
def LinkEvent.bytes : LinkEvent → Bytes
  | written bytes (.ok ()) => bytes
  | _ => []

namespace Session

/-- What was written since the link is observed. -/
def written (s : Session (Observed L)) : Bytes :=
  s.link.account.flatMap LinkEvent.bytes

@[simp] lemma written_observed (s : Session L) : s.observed.written = [] := rfl

/-! ## Calls that write nothing -/

lemma keeps_written_note (bytes : Bytes) (silent : Bool) (entry : LogEntry) :
    Call.Keeps (fun s : Session (Observed L) => s.written = bytes) (note silent entry) := by
  intro s hs
  rw [run_note]
  cases silent <;> exact hs

variable [Link L] {s : Session (Observed L)}

lemma written_setWait (wait : Span) : ((setWait wait).run s).2.written = s.written := by
  rcases hset : Link.setWait wait s.link with ⟨fault | ⟨⟩, link⟩ <;>
    simp [setWait, Call.run, hset, written, (Observed.of_setWait hset).2, LinkEvent.bytes]

lemma keeps_written_readFrame (bytes : Bytes) :
    Call.Keeps (fun s : Session (Observed L) => s.written = bytes) readFrame := by
  refine keeps_readFrame_of_link (P := fun o : Observed L =>
    o.account.flatMap LinkEvent.bytes = bytes) fun o size ho => ?_
  have hread : (Link.read size o).2.account = o.account ++ [.read (Link.read size o).1] :=
    (Observed.of_read rfl).2
  simp [hread, ho, LinkEvent.bytes]

/-! ## Commands -/

/-- A command is written whole, or the connection is lost. It can be lost after the command was
written. -/
lemma written_send (command : Command) (s : Session (Observed L)) :
    (∃ s', (send command).run s = (.ok (), s') ∧ s'.written = s.written ++ command.encode) ∨
      ∃ e s', (send command).run s = (.error e, s') ∧ s'.connected = false ∧
        (s'.written = s.written ++ command.encode ∨ s'.written = s.written) := by
  cases hs : s.connected with
  | false => exact Or.inr ⟨_, s, ensureConnected_bind_run hs _, hs, Or.inr rfl⟩
  | true =>
    have htransmits := transmits_transmit command.encode s
    rw [← send_run hs] at htransmits
    rcases hrun : (send command).run s with ⟨result, s'⟩
    rw [hrun] at htransmits
    change Transmits s s' command.encode result at htransmits
    cases htransmits with
    | sent haccount _ =>
      exact Or.inl ⟨s', rfl, by simp [written, haccount, LinkEvent.bytes]⟩
    | unwritten fault haccount hlost =>
      exact Or.inr ⟨_, s', rfl, hlost, Or.inr (by simp [written, haccount, LinkEvent.bytes])⟩
    | unsent fault haccount hlost =>
      exact Or.inr ⟨_, s', rfl, hlost, Or.inl (by simp [written, haccount, LinkEvent.bytes])⟩

/-- Once a command is sent, its execution writes no more. -/
lemma written_execute_of_send {command : Command} {s' : Session (Observed L)}
    (hsend : (send command).run s = (.ok (), s')) (silent : Bool) :
    ((execute command silent).run s).2.written = s'.written := by
  have hread := keeps_written_readFrame (L := L) s'.written
  rw [execute, Call.run_bind_of_ok hsend]
  have hrest := (keeps_written_note _ silent (.sent command)).bind fun _ => hread.bind fun frame =>
    (keeps_written_note _ silent (.received frame)).bind fun _ =>
      Call.keeps_decode hread command frame
  exact hrest s' rfl

/-- A command that is executed is written once. -/
lemma written_execute (command : Command) (silent : Bool)
    (h : ((execute command silent).run s).2.connected = true) :
    ((execute command silent).run s).2.written = s.written ++ command.encode := by
  rcases written_send command s with ⟨s', hsend, hwritten⟩ | ⟨e, s', hsend, hlost, -⟩
  · rw [written_execute_of_send hsend, hwritten]
  · rw [execute, Call.run_bind_of_error hsend] at h
    exact absurd h (by simp [hlost])

/-- A command that is executed is written once, or not at all; and then the execution fails. -/
lemma written_execute_or (command : Command) (silent : Bool) (s : Session (Observed L)) :
    ((execute command silent).run s).2.written = s.written ++ command.encode ∨
      ((execute command silent).run s).2.written = s.written ∧
        ∃ e, ((execute command silent).run s).1 = .error e := by
  rcases written_send command s with ⟨s', hsend, hwritten⟩ | ⟨e, s', hsend, -, hwritten⟩
  · exact Or.inl ((written_execute_of_send hsend silent).trans hwritten)
  · rw [execute, Call.run_bind_of_error hsend]
    exact hwritten.imp_right fun hnothing => ⟨hnothing, e, rfl⟩

end Session

/-! ## What is sent -/

/-- The commands that are sent by an act. -/
def SessionAct.sent : SessionAct → List Command
  | send command => [command]
  | readFrame => []
  | execute command _ => [command]
  | executeLine typed _ => (Command.read typed).toOption.toList

/-- The commands that are sent when a session is used. -/
def SessionUse.sent : SessionUse → List Command
  | act what => what.sent
  | setWait _ => []

lemma SessionUse.length_sent_le (use : SessionUse) : use.sent.length ≤ 1 := by
  cases use with
  | act what =>
    cases what with
    | executeLine typed silent => exact Option.length_toList_le
    | _ => simp [sent, SessionAct.sent]
  | setWait wait => exact Nat.zero_le 1

variable [Link L] {s : Session (Observed L)}

/-- A session that is connected after an act has written the commands of the act. -/
lemma SessionAct.written_perform {act : SessionAct}
    (h : (act.perform.run s).2.connected = true) :
    (act.perform.run s).2.written = s.written ++ act.sent.flatMap Command.encode := by
  cases act with
  | send command =>
    rw [perform, Call.run_map_snd] at h ⊢
    rcases Session.written_send command s with ⟨s', hsend, hwritten⟩ | ⟨e, s', hsend, hlost, -⟩
    · simp [hsend, hwritten, sent]
    · simp [hsend, hlost] at h
  | readFrame =>
    rw [perform, Call.run_map_snd]
    simpa [sent] using Session.keeps_written_readFrame s.written s rfl
  | execute command silent =>
    rw [perform, Call.run_map_snd] at h ⊢
    simpa [sent] using Session.written_execute command silent h
  | executeLine typed silent =>
    rw [perform, Call.run_map_snd, Session.executeLine] at h ⊢
    cases hread : Command.read typed with
    | error cause => simp [sent, hread, Except.toOption]; rfl
    | ok command =>
      rw [hread] at h
      have hwritten := Session.written_execute command silent h
      simp only [sent, hread, Except.toOption, Option.toList_some, List.flatMap_singleton]
      exact hwritten

/-- A session that is connected after a use has written the commands of the use. -/
lemma SessionUse.written_perform {use : SessionUse}
    (h : (use.perform.run s).2.connected = true) :
    (use.perform.run s).2.written = s.written ++ use.sent.flatMap Command.encode := by
  cases use with
  | act what =>
    rw [perform, Call.run_map_snd] at h ⊢
    exact what.written_perform h
  | setWait wait =>
    rw [perform, Call.run_map_snd, Session.written_setWait]
    simp [sent]

/-- A use does the same whether the link is observed or not. -/
lemma SessionUse.watches_perform (use : SessionUse) :
    Session.Watches (L := L) use.perform use.perform := by
  cases use with
  | act what => exact what.watches_perform.bind fun _ => Session.watches_ofExcept (.ok _)
  | setWait wait =>
    have hset : Session.Watches (L := L) (Session.setWait wait) (Session.setWait wait) := by
      intro s
      rcases hset : Link.setWait wait s.link with ⟨fault | ⟨⟩, link⟩ <;>
        simp [Session.setWait, Call.run, Session.unobserved, hset, (Observed.of_setWait hset).1]
    exact hset.bind fun _ => Session.watches_ofExcept (.ok _)

/-- A lost connection stays lost. -/
lemma SessionUse.keeps_lost (use : SessionUse) :
    Call.Keeps (fun s : Session L => s.connected = false) use.perform := by
  intro s hs
  cases use with
  | act what => rwa [perform, Call.run_map_snd, what.perform_run_of_lost hs]
  | setWait wait =>
    rw [perform, Call.run_map_snd]
    rcases hset : Link.setWait wait s.link with ⟨fault | ⟨⟩, link⟩ <;>
      simpa [Session.setWait, Call.run, hset] using hs

end TimingBoard
