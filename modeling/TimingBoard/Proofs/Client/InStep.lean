import TimingBoard.Proofs.Client.Calls
import TimingBoard.Proofs.Session.Exchange

/-!
# Clients in step with their board

A user of a client executes commands and makes calls, in any order, while somebody else may silence
the board and let it speak again.  Replies are matched to commands by their order alone.  Still no
command is ever answered with the reply to another one: every command finds the session in step with
the board and leaves it so, whatever the reply was, whether the call failed, and however the answer
was cut into pieces.

The statement compares two runs of the same acts.  In one the client does what it does, over bytes.
In the other every command is an exchange, whose reply is read from the frames of the board's answer
to this very command.  They give the same results and end in the same state.
-/

namespace TimingBoard

/-- Something that is done with a client, or with the board it is connected to. -/
inductive Act where
  /-- A command is executed over the session. -/
  | execute (command : Command) (silent : Bool)
  /-- A call of the client is made. -/
  | call (what : ClientCall)
  /-- The board is silenced, or let speak again. -/
  | mute (on : Bool)

namespace Client

/-- A client whose board is silenced, or let speak again. -/
def muted (on : Bool) (client : Client Connection) : Client Connection :=
  { client with session := { client.session with link := { client.session.link with
    board := { client.session.link.board with mute := on } } } }

/-- A client executes commands as exchanges with the board. -/
def byExchange : Executor (Client Connection) where
  execute command silent := onSession (Session.exchange command silent)
  track := track

end Client

namespace Act

/-- What an act does. -/
def perform : Act → Call (Client Connection) Answer
  | execute command silent => .reply <$> Client.overSession.execute command silent
  | call what => what.perform
  | mute on => fun client => (.ok .done, client.muted on)

/-- What an act does if every command is an exchange. -/
def exchange : Act → Call (Client Connection) Answer
  | execute command silent => .reply <$> Client.byExchange.execute command silent
  | call what => what.dialogue.follow Client.byExchange
  | mute on => fun client => (.ok .done, client.muted on)

/-- The results of acts in order, and the client after them. -/
def runAll (step : Act → Call (Client Connection) Answer) :
    List Act → Client Connection → List (Except Error Answer) × Client Connection
  | [], client => ([], client)
  | act :: rest, client =>
    let (result, client) := (step act).run client
    let (results, client) := runAll step rest client
    (result :: results, client)

end Act

variable {α : Type} {client : Client Connection} {runs : Nat}

/-! ## One call -/

/-- A condition on sessions, with a number of runs it has room for, under which every command is an
exchange and after which the condition holds again. -/
structure Session.Exchanges (I : Nat → Session Connection → Prop) : Prop where
  mono {s : Session Connection} {runs fewer : Nat} : I runs s → fewer ≤ runs → I fewer s
  execute_run {s : Session Connection} {runs : Nat} (command : Command) (silent : Bool) :
    I runs s → (execute command silent).run s = (exchange command silent).run s
  after_exchange {s : Session Connection} {runs : Nat} (command : Command) (silent : Bool) :
    I (runs + command.startCount) s → I runs ((exchange command silent).run s).2

lemma Session.exchanges_isInTouch : Session.Exchanges Session.IsInTouch where
  mono h hle := h.mono hle
  execute_run command _ h := h.quiet.execute_run (h.isUnbrokenAnswer command)
  after_exchange _ _ h := h.after_exchange

lemma Session.exchanges_isInStep : Session.Exchanges Session.IsInStep where
  mono h hle := h.mono hle
  execute_run _ _ h := h.execute_run
  after_exchange _ _ h := h.after_exchange

/-- A dialogue over such a session is a dialogue of exchanges, and the session has room for the runs
that the dialogue did not start. -/
lemma Dialogue.follow_exchanges {I : Nat → Session Connection → Prop} (hI : Session.Exchanges I)
    {d : Dialogue α} {starts : Nat} (h : I (runs + starts) client.session)
    (hd : d.StartsAtMost starts) :
    (d.follow Client.overSession).run client = (d.follow Client.byExchange).run client ∧
      I runs ((d.follow Client.byExchange).run client).2.session := by
  induction d generalizing client starts with
  | stop result =>
    refine ⟨rfl, ?_⟩
    simp only [follow, Call.run_ofExcept]
    exact hI.mono h (Nat.le_add_right _ _)
  | ask command silent next ih =>
    have hroom : runs + starts = runs + (starts - command.startCount) + command.startCount := by
      have := hd.1
      omega
    rw [hroom] at h
    have hover : (Client.overSession.execute command silent).run client =
        (Client.byExchange.execute command silent).run client := by
      rw [Client.overSession, Client.byExchange, Client.run_onSession, Client.run_onSession,
        hI.execute_run command silent h]
    have hafter : I (runs + (starts - command.startCount))
        ((Client.byExchange.execute command silent).run client).2.session :=
      hI.after_exchange command silent h
    rcases hreply : (Client.byExchange.execute command silent).run client with ⟨_ | reply, client'⟩
    · rw [hreply] at hover hafter
      simp only [follow]
      rw [Call.run_bind_of_error hover, Call.run_bind_of_error hreply]
      exact ⟨rfl, hI.mono hafter (Nat.le_add_right _ _)⟩
    · rw [hreply] at hover hafter
      simp only [follow]
      rw [Call.run_bind_of_ok hover, Call.run_bind_of_ok hreply]
      exact ih reply hafter (hd.2 reply)
  | track change next ih => exact ih client.tracker h (hd client.tracker)

/-- A dialogue of a client that is in step is a dialogue of exchanges, and the client stays in
step. -/
lemma Dialogue.follow_inStep {d : Dialogue α} {starts : Nat}
    (h : client.session.IsInStep (runs + starts)) (hd : d.StartsAtMost starts) :
    (d.follow Client.overSession).run client = (d.follow Client.byExchange).run client ∧
      ((d.follow Client.byExchange).run client).2.session.IsInStep runs :=
  follow_exchanges Session.exchanges_isInStep h hd

/-! ## All acts -/

/-- Silencing a board changes nothing that keeps a client in step. -/
lemma Session.IsInStep.muted (h : client.session.IsInStep runs) (on : Bool) :
    (client.muted on).session.IsInStep runs := by
  refine ⟨⟨h.quiet.connected, h.quiet.buffer, h.quiet.arriving, h.quiet.unfinished⟩, ?_, ?_⟩
  · refine ⟨fun key => ?_, h.isOneLine.filePrefix, h.isOneLine.monitor, h.isOneLine.agents⟩
    have htime := h.isOneLine.timing key
    cases key <;> exact htime
  · exact ⟨h.hasRoom.agents, h.hasRoom.measurements⟩

/-- One act of a client that is in step. -/
lemma Act.perform_inStep (h : client.session.IsInStep (runs + 1)) (act : Act) :
    act.perform.run client = act.exchange.run client ∧
      (act.exchange.run client).2.session.IsInStep runs := by
  cases act with
  | execute command silent =>
    have hstarts : (Dialogue.ask command silent fun reply =>
        Dialogue.stop (.ok (Answer.reply reply))).StartsAtMost 1 :=
      ⟨command.startCount_le_one, fun _ => trivial⟩
    exact Dialogue.follow_inStep h hstarts
  | call what =>
    rw [perform, ClientCall.perform_eq_follow]
    exact Dialogue.follow_inStep h what.startsAtMost_dialogue
  | mute on => exact ⟨rfl, (h.muted on).mono (Nat.le_add_right _ _)⟩

/-- All acts of a client that is in step. -/
lemma Act.runAll_inStep {acts : List Act} (h : client.session.IsInStep (runs + acts.length)) :
    runAll perform acts client = runAll exchange acts client ∧
      (runAll exchange acts client).2.session.IsInStep runs := by
  induction acts generalizing client with
  | nil => exact ⟨rfl, h⟩
  | cons act rest ih =>
    have hroom : client.session.IsInStep (runs + rest.length + 1) := h
    obtain ⟨hact, hstep⟩ := act.perform_inStep hroom
    obtain ⟨hrest, hend⟩ := ih hstep
    simp only [runAll, hact]
    exact ⟨by rw [hrest], hend⟩

/-- **No command is answered with another one's reply.** A client begins with nothing on its way to
it, over a board whose texts are on one line and whose lists can be counted. Then any acts give the
results, and lead to the state, that they would if every command were an exchange. Nothing is on its
way afterwards, so that this holds after each of the acts. The next command gives the reply that is
read from the answer of the board to it, or gives up, which happens exactly when the board is mute,
and leaves nothing on its way either. -/
theorem Act.runAll_eq_exchange (acts : List Act) (client : Client Connection)
    (hquiet : client.session.IsQuiet) (hline : client.session.link.board.IsOneLine)
    (hroom : client.session.link.board.HasRoomFor acts.length) :
    runAll perform acts client = runAll exchange acts client ∧
      let s := (runAll perform acts client).2.session
      s.IsQuiet ∧ ∀ (command : Command) (silent : Bool),
        let answer := (s.link.board.handle s.link.now command.line).1
        let result := ((Session.execute command silent).run s).1
        result = (if s.link.board.mute then .error .timeout
          else Reply.ofAnswer command (answer.map Frame.received)) ∧
        (result = .error .timeout ↔ s.link.board.mute = true) ∧
        ((Session.execute command silent).run s).2.IsQuiet := by
  have hstart : client.session.IsInStep (0 + acts.length) :=
    ⟨hquiet, hline, by rwa [Nat.zero_add]⟩
  obtain ⟨hacts, hstep⟩ := runAll_inStep hstart
  rw [hacts]
  generalize (runAll exchange acts client).2.session = s at hstep ⊢
  refine ⟨rfl, hstep.quiet, fun command silent => ?_⟩
  rw [hstep.execute_run]
  exact ⟨hstep.exchange_result, hstep.exchange_eq_timeout_iff, hstep.isQuiet_exchange⟩

/-- Cuts every answer into single bytes. -/
def Cutting.bytewise : Cutting where
  pieces bytes := bytes.map fun b => [b]
  flatten_pieces bytes := by induction bytes <;> simp_all
  ne_nil_of_mem bytes piece h := by
    obtain ⟨b, -, rfl⟩ := List.mem_map.1 h
    simp

/-- A client of a noisy board with a prefix, a monitor, an agent and a measurement, whose answers
arrive byte by byte. -/
def noisyClient : Client Connection :=
  .ofSession ⟨⟨{ Board.atRest with
    noisy := true
    filePrefix := "run".toList
    monitor := some ⟨2, 3, "live".toList⟩
    agents := [⟨1, "00:11:22:33:44:55".toList⟩]
    measurements := [7] }, fun n => ⟨n⟩, [], [], fun _ => .bytewise⟩, .empty, Session.defaultWait,
    true, .empty⟩

/-- The table, a status that a mute board does not give, a start, and the list of agents. -/
theorem Act.runAll_eq_exchange_noisyClient :
    let acts := [Act.call .table, .mute true, .call .status, .mute false,
      .call (.startRun .unchanged ⟨0⟩), .call .agents]
    noisyClient.session.IsQuiet ∧ noisyClient.session.link.board.IsOneLine ∧
      noisyClient.session.link.board.HasRoomFor acts.length ∧
      runAll perform acts noisyClient = runAll exchange acts noisyClient ∧
      (runAll perform acts noisyClient).2.session.IsQuiet := by
  intro acts
  have hquiet : noisyClient.session.IsQuiet := ⟨rfl, rfl, rfl, rfl⟩
  have hline : noisyClient.session.link.board.IsOneLine :=
    ⟨fun key => by cases key <;> decide, by decide, by decide, by decide⟩
  have hroom : noisyClient.session.link.board.HasRoomFor acts.length := ⟨by decide, by decide⟩
  have hrun := runAll_eq_exchange acts noisyClient hquiet hline hroom
  exact ⟨hquiet, hline, hroom, hrun.1, hrun.2.1⟩

end TimingBoard
