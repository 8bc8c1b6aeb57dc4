import TimingBoard.Proofs.Client.InStep

/-!
# Asking a board that answers

A request of a client succeeds when the reply is of the kind that was asked for, and fails with the
error of the reply otherwise.  A request that is refused sends nothing.

The reply is read from the answer of the board, when the client has nothing on its way and the board
is not mute.  Whatever the reply, the client is then between two commands again.
-/

namespace TimingBoard

variable {α L : Type}

/-! ## Requests -/

namespace Client

section Requests

variable [Link L] {request : Except Refusal Command} {command : Command} {silent : Bool}
  {kind : Reply → Option α} {client client' : Client L}

lemma ask_run_of_refused {cause : Refusal} (h : request = .error cause) :
    (ask request silent kind).run client = (.error (.refused cause), client) := by
  rw [h]
  rfl

/-- A request is what becomes of its command. -/
lemma ask_eq (h : request = .ok command) :
    ask request silent kind = (overSession (L := L)).execute command silent >>= fun reply =>
      match kind reply with
      | some a => pure a
      | none => Call.fail (.unexpectedReply command reply) := by
  rw [h]
  rfl

/-- A request takes a reply of the right kind. -/
lemma ask_run_of_ok {reply : Reply} {a : α} (h : request = .ok command)
    (hexecute : (overSession.execute command silent).run client = (.ok reply, client'))
    (hkind : kind reply = some a) : (ask request silent kind).run client = (.ok a, client') := by
  rw [ask_eq h, Call.run_bind_of_ok hexecute, hkind]
  rfl

/-- A request fails as its command does. -/
lemma ask_run_of_error {e : Error} (h : request = .ok command)
    (hexecute : (overSession.execute command silent).run client = (.error e, client')) :
    (ask request silent kind).run client = (.error e, client') := by
  rw [ask_eq h, Call.run_bind_of_error hexecute]

/-- A request is what its command gives, if the reply is of the right kind. -/
lemma ask_run (h : request = .ok command) (client : Client L) :
    let after := (Session.execute command silent).run client.session
    (ask request silent kind).run client =
      (after.1.bind fun reply =>
          (kind reply).elim (.error (.unexpectedReply command reply)) .ok,
        { client with session := after.2 }) := by
  have hexecute : (overSession.execute command silent).run client =
      (((Session.execute command silent).run client.session).1,
        { client with session := ((Session.execute command silent).run client.session).2 }) := rfl
  rw [ask_eq h, Call.run_bind, hexecute]
  rcases (Session.execute command silent).run client.session with ⟨e | reply, s⟩
  · rfl
  · dsimp only [Except.bind]
    cases kind reply <;> rfl

end Requests

/-! ## Answers -/

variable {client : Client Connection} {command : Command} {silent : Bool}

/-- The board that a client is connected to. -/
def board (client : Client Connection) : Board :=
  client.session.link.board

/-- The moment at which the board of a client answers its next command. -/
def now (client : Client Connection) : Instant :=
  client.session.link.now

/-- The board of a client when it answers a command: a run that is over is ended. -/
def readied (command : Command) (client : Client Connection) : Board :=
  client.board.prepared client.now command.line

/-- The client after the board has taken the line of a command, with a longer log. -/
def afterLine (command : Command) (log : CommandLog) (client : Client Connection) :
    Client Connection :=
  { client with session := { (client.session.afterLine command).2 with log := log } }

/-- A client with nothing on its way to it, over a board that is not mute. -/
structure IsServed (client : Client Connection) : Prop where
  quiet : client.session.IsQuiet
  unmuted : client.board.mute = false

lemma IsServed.afterLine (h : client.IsServed) (command : Command) (log : CommandLog) :
    (client.afterLine command log).IsServed :=
  ⟨⟨h.quiet.connected, h.quiet.buffer, h.quiet.arriving, h.quiet.unfinished⟩,
    (Session.mute_afterLine command client.session).trans h.unmuted⟩

/-- The reply to a command is read from the answer of the board. -/
lemma IsServed.execute_run (h : client.IsServed) {frames : List Frame} {board : Board}
    (hhandle : client.board.handle client.now command.line = (frames, board))
    (hanswer : Board.IsUnbrokenAnswer command frames) (silent : Bool) :
    ∃ log, (overSession.execute command silent).run client =
      (Reply.ofAnswer command (frames.map Frame.received), client.afterLine command log) := by
  have hframes : (client.session.afterLine command).1 = frames := congrArg Prod.fst hhandle
  obtain ⟨log, hrun⟩ := h.quiet.execute_run_of_unmuted (hframes ▸ hanswer) h.unmuted silent
  refine ⟨log, ?_⟩
  rw [overSession, run_onSession, hrun, hframes]
  rfl

end Client

end TimingBoard
