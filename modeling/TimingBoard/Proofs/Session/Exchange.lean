import TimingBoard.Proofs.Board.Connection
import TimingBoard.Proofs.Session.Reading

/-!
# Exchanges with the simulated board

One command and its reply are an exchange.  Seen from far it is simple: the board takes the line of
the command and answers, and the reply is read from the frames of that answer alone.  In between the
answer is written out in bytes, put behind noise, cut into pieces, collected in a buffer and cut
into lines again, and the session does not know how many lines there will be.

On a quiet session, one with nothing on its way, the two views agree, and the session is quiet again
afterwards.  So the next command starts from a clean slate too.
-/

namespace TimingBoard

namespace Session

/-- A session over a connection with nothing on its way in either direction. -/
structure IsQuiet (s : Session Connection) : Prop where
  connected : s.connected = true
  buffer : s.buffer.bytes = []
  arriving : s.link.arriving = []
  unfinished : s.link.unfinished = []

/-- The session after the board has taken the line of a command, and the frames of the answer. -/
def afterLine (command : Command) (s : Session Connection) : List Frame × Session Connection :=
  let (frames, board) := s.link.board.handle s.link.now command.line
  (frames, { s with link := { s.link with
    board := board
    clock := fun n => s.link.clock (n + 1)
    cutting := fun n => s.link.cutting (n + 1) } })

/-- Hands the line of a command to the board. The frames of the answer come back as they are read;
a mute board gives none. -/
def hear (command : Command) : Call (Session Connection) (List Frame) := fun s =>
  (.ok (if (s.afterLine command).2.link.board.mute then []
    else (s.afterLine command).1.map Frame.received), (s.afterLine command).2)

/-- A command and its reply, without bytes and buffers: the reply is read from the frames of the
answer to this command, and only a mute board makes the session give up. -/
def exchange (command : Command) (silent : Bool) : Call (Session Connection) Reply := do
  let frames ← hear command
  note silent (.sent command)
  match frames with
  | [] => Call.fail .timeout
  | first :: rest => do
    note silent (.received first)
    Call.ofExcept (Reply.ofFrames command first rest)

/-! ## Quiet sessions -/

variable {s : Session Connection} {command : Command} {silent : Bool}

lemma IsQuiet.canRead (h : s.IsQuiet) : s.CanRead :=
  ⟨h.connected, by
    intro piece hpiece
    simp [h.arriving] at hpiece⟩

lemma IsQuiet.withoutBytes_eq (h : s.IsQuiet) : s.withoutBytes = s := by
  obtain ⟨link, buffer, wait, connected, log⟩ := s
  obtain ⟨board, clock, unfinished, arriving, cutting⟩ := link
  obtain ⟨bytes⟩ := buffer
  obtain ⟨-, rfl, rfl, -⟩ := h
  rfl

lemma IsQuiet.noted (h : s.IsQuiet) (silent : Bool) (entry : LogEntry) :
    (s.noted silent entry).IsQuiet := by
  cases silent
  · exact ⟨h.connected, h.buffer, h.arriving, h.unfinished⟩
  · exact h

lemma IsQuiet.afterLine (h : s.IsQuiet) (command : Command) : (s.afterLine command).2.IsQuiet :=
  ⟨h.connected, h.buffer, h.arriving, h.unfinished⟩

/-- A session that can read and has nothing unread holds no bytes at all. -/
lemma CanRead.withoutBytes_eq (h : s.CanRead) (hnone : s.unread.bytes = []) :
    s.withoutBytes = s := by
  have hempty : s.buffer.bytes = [] ∧ s.link.arriving.flatten = [] :=
    List.append_eq_nil_iff.1 hnone
  have harriving : s.link.arriving = [] := by
    refine List.eq_nil_iff_forall_not_mem.2 fun piece hpiece => ?_
    exact h.isOpen piece hpiece (List.flatten_eq_nil_iff.1 hempty.2 piece hpiece)
  obtain ⟨link, buffer, wait, connected, log⟩ := s
  obtain ⟨board, clock, unfinished, arriving, cutting⟩ := link
  obtain ⟨bytes⟩ := buffer
  obtain ⟨rfl, -⟩ := hempty
  obtain rfl := harriving
  rfl

/-! ## Sending -/

/-- The session once a command was sent: what the board says is on its way. -/
def answered (command : Command) (s : Session Connection) : Session Connection :=
  { s with link := s.link.handed command }

/-- A command that is sent over a connection with nothing on its way to the board reaches the board
as its line. -/
lemma run_send (hconnected : s.connected = true) (hunfinished : s.link.unfinished = []) :
    (send command).run s = (.ok (), s.answered command) := by
  have hensured : ensureConnected.run s = (.ok (), s) := by
    simp [ensureConnected, Call.run, hconnected]
  have hwrite : Link.write command.encode s.link = (.ok (), s.link.handed command) :=
    Connection.write_encode hunfinished command
  rw [send, Call.run_bind_of_ok hensured]
  change transmit command.encode s = _
  rw [transmit, hwrite]
  rfl

/-! ## Reading the answer -/

/-- A session that still has frames to hand out: their lines are all that is unread. -/
structure Delivers (s₀ s : Session Connection) (frames : List Frame) : Prop where
  canRead : s.CanRead
  withoutBytes_eq : s.withoutBytes = s₀
  unread_eq : ∃ sent : List Frame, frames = sent.map Frame.received ∧
    (∀ f ∈ sent, Text.IsUnbroken f.payload) ∧ s.unread.bytes = sent.flatMap Frame.wire

/-- A session hands out the frames that are on their way one after the other. -/
lemma readsFrom_readFrame (s₀ : Session Connection) :
    Call.ReadsFrom (Delivers s₀) True readFrame Reply.nextOf := by
  rintro s frames ⟨hread, hsame, sent, rfl, hline, hunread⟩
  cases sent with
  | nil =>
    obtain ⟨s', hrun, hread', hunread', hsame'⟩ := readFrame_of_unread_nil trivial hread hunread
    rw [hrun]
    refine ⟨[], List.suffix_rfl, ⟨hread', hsame'.trans hsame, [], rfl, hline, hunread'⟩, Or.inl rfl⟩
  | cons f sent =>
    rw [List.flatMap_cons] at hunread
    have hnext : s.unread.nextFrame = (some f.received, ⟨sent.flatMap Frame.wire⟩) := by
      rw [show s.unread = ⟨f.wire ++ sent.flatMap Frame.wire⟩ from
        congrArg ReceiveBuffer.mk hunread]
      exact ReceiveBuffer.nextFrame_wire (hline f (by simp)) _
    obtain ⟨s', hrun, hread', hunread', hsame'⟩ := readFrame_of_nextFrame trivial hread hnext
    rw [hrun]
    refine ⟨sent.map Frame.received, List.suffix_cons _ _, ⟨hread', hsame'.trans hsame, sent, rfl,
      fun g hg => hline g (by simp [hg]), by rw [hunread']⟩, Or.inl rfl⟩

/-- Nothing is left once all frames have been handed out. -/
lemma Delivers.eq_of_nil {s₀ s : Session Connection} (h : Delivers s₀ s []) : s = s₀ := by
  obtain ⟨sent, hsent, -, hunread⟩ := h.unread_eq
  obtain rfl : sent = [] := List.map_eq_nil_iff.1 hsent.symm
  rw [← h.withoutBytes_eq, h.canRead.withoutBytes_eq hunread]

/-- A note in the log does not touch the frames that are on their way. -/
lemma Delivers.noted {s₀ s : Session Connection} {frames : List Frame} (h : Delivers s₀ s frames)
    (silent : Bool) (entry : LogEntry) :
    Delivers (s₀.noted silent entry) (s.noted silent entry) frames := by
  refine ⟨h.canRead.noted silent entry, ?_, ?_⟩
  · rw [withoutBytes_noted, h.withoutBytes_eq]
  · rw [unread_noted]
    exact h.unread_eq

/-! ## Whole exchanges -/

/-- On a quiet session only what the board says is on its way once a command was sent. -/
lemma IsQuiet.arriving_answered (h : s.IsQuiet) (command : Command) :
    (s.answered command).link.arriving = (s.link.cutting 0).pieces (Text.toUtf8
      ((s.afterLine command).2.link.board.said (s.afterLine command).1)) := by
  have harriving : (s.answered command).link.arriving = s.link.arriving ++ (s.link.cutting 0).pieces
      (Text.toUtf8 ((s.afterLine command).2.link.board.said (s.afterLine command).1)) := rfl
  rw [harriving, h.arriving, List.nil_append]

/-- A session to which a command was sent can be read. -/
lemma IsQuiet.canRead_answered (h : s.IsQuiet) (command : Command) :
    (s.answered command).CanRead := by
  refine ⟨h.connected, fun piece hpiece => ?_⟩
  rw [h.arriving_answered command] at hpiece
  exact (s.link.cutting 0).ne_nil_of_mem _ hpiece

lemma IsQuiet.withoutBytes_answered (h : s.IsQuiet) (command : Command) :
    (s.answered command).withoutBytes = (s.afterLine command).2 := by
  rw [← (h.afterLine command).withoutBytes_eq]
  rfl

/-- What is unread after a command was sent is what the board says. -/
lemma IsQuiet.unread_answered (h : s.IsQuiet) (command : Command) :
    (s.answered command).unread.bytes =
      Text.toUtf8 ((s.afterLine command).2.link.board.said (s.afterLine command).1) := by
  have hbytes : (s.answered command).unread.bytes =
      s.buffer.bytes ++ (s.answered command).link.arriving.flatten := rfl
  rw [hbytes, h.buffer, h.arriving_answered, (s.link.cutting 0).flatten_pieces, List.nil_append]

/-- A mute board leaves nothing to read. -/
lemma IsQuiet.answered_of_mute (h : s.IsQuiet) (command : Command)
    (hmute : (s.afterLine command).2.link.board.mute = true) :
    s.answered command = (s.afterLine command).2 := by
  have hunread := h.unread_answered command
  rw [Board.said, if_pos hmute, Text.toUtf8_nil] at hunread
  rw [← h.withoutBytes_answered command, (h.canRead_answered command).withoutBytes_eq hunread]

/-- On a quiet session a mute board makes every command run out of time. -/
lemma execute_run_of_mute (h : s.IsQuiet)
    (hmute : (s.afterLine command).2.link.board.mute = true) :
    (execute command silent).run s =
      (.error .timeout, (s.afterLine command).2.noted silent (.sent command)) := by
  have hquiet := (h.afterLine command).noted silent (.sent command)
  have hunread : ((s.afterLine command).2.noted silent (.sent command)).unread.bytes = [] := by
    simp [unread, ReceiveBuffer.receive, Link.InOrder.coming, hquiet.buffer, hquiet.arriving]
  obtain ⟨s', hread, hread', hunread', hsame⟩ :=
    readFrame_of_unread_nil trivial hquiet.canRead hunread
  rw [execute, Call.run_bind_of_ok (run_send h.connected h.unfinished),
    h.answered_of_mute command hmute, Call.run_bind_of_ok (run_note _ _ _),
    Call.run_bind_of_error hread]
  rw [← hread'.withoutBytes_eq hunread', hsame, hquiet.withoutBytes_eq]

/-- On a quiet session a board that is not mute is understood: the reply is read from the frames of
its answer. -/
lemma execute_run_of_answer (h : s.IsQuiet) {first : Frame} {rest : List Frame}
    (hanswer : Board.IsUnbrokenAnswer command (s.afterLine command).1)
    (hmute : (s.afterLine command).2.link.board.mute = false)
    (hframes : (s.afterLine command).1 = first :: rest) :
    (execute command silent).run s =
      (Reply.ofFrames command first.received (rest.map Frame.received),
        ((s.afterLine command).2.noted silent (.sent command)).noted silent
          (.received first.received)) := by
  obtain ⟨first', rest', heq, hlength⟩ := hanswer.isComplete
  obtain ⟨rfl, rfl⟩ : first' = first ∧ rest' = rest := by
    rw [hframes, List.cons.injEq] at heq
    exact ⟨heq.1.symm, heq.2.symm⟩
  have hline : ∀ f ∈ first' :: rest', Text.IsUnbroken f.payload := hframes ▸ hanswer.isUnbroken
  have hunread := h.unread_answered command
  rw [Board.said, hmute, hframes, if_neg (by decide), Board.toUtf8_transcript,
    List.flatMap_cons] at hunread
  have hnext : (s.answered command).unread.nextFrame =
      (some first'.received, ⟨rest'.flatMap Frame.wire⟩) := by
    have hwire := ReceiveBuffer.nextFrame_wire (hline first' (by simp)) (rest'.flatMap Frame.wire)
    rw [show (s.answered command).unread = ⟨_⟩ from congrArg ReceiveBuffer.mk hunread]
    split
    · rw [ReceiveBuffer.nextFrame_noise, hwire]
    · exact hwire
  have hread := (h.canRead_answered command).noted silent (.sent command)
  rw [← unread_noted (s.answered command) silent (.sent command)] at hnext
  obtain ⟨s₁, hrun, hread₁, hunread₁, hsame₁⟩ := readFrame_of_nextFrame trivial hread hnext
  have hdelivers : Delivers ((s.afterLine command).2.noted silent (.sent command)) s₁
      (rest'.map Frame.received) := by
    refine ⟨hread₁, ?_, rest', rfl, fun f hf => hline f (by simp [hf]), by rw [hunread₁]⟩
    rw [hsame₁, withoutBytes_noted, h.withoutBytes_answered]
  obtain ⟨left, -, hleft, hdecode | hgaveUp⟩ :=
    Call.readsFrom_decode (readsFrom_readFrame _) command first'.received _ _
      (hdelivers.noted silent (.received first'.received))
  · rw [Reply.decode_run_of_length (by simpa using hlength), Prod.mk.injEq] at hdecode
    rw [execute, Call.run_bind_of_ok (run_send h.connected h.unfinished),
      Call.run_bind_of_ok (run_note _ _ _), Call.run_bind_of_ok hrun,
      Call.run_bind_of_ok (run_note _ _ _)]
    rw [← hdecode.2] at hleft
    exact Prod.ext hdecode.1.symm hleft.eq_of_nil
  · exact absurd trivial hgaveUp.1

/-- A quiet session whose board is not mute takes the reply to a command from the answer. Apart from
the log it is then the session after the line. -/
lemma IsQuiet.execute_run_of_unmuted (h : s.IsQuiet)
    (hanswer : Board.IsUnbrokenAnswer command (s.afterLine command).1)
    (hmute : s.link.board.mute = false) (silent : Bool) :
    ∃ log : CommandLog, (execute command silent).run s = (Reply.ofAnswer command
      ((s.afterLine command).1.map Frame.received),
        { (s.afterLine command).2 with log := log }) := by
  obtain ⟨first, rest, hframes, -⟩ := hanswer.isComplete
  have hsame : (s.afterLine command).2.link.board.mute = s.link.board.mute :=
    (Board.sameSetup_handle s.link.now command s.link.board).1.mute
  rw [execute_run_of_answer h hanswer (hsame.trans hmute) hframes, hframes, List.map_cons,
    Reply.ofAnswer_cons]
  cases silent <;> exact ⟨_, rfl⟩

/-- A quiet session whose board is not mute takes the reply to a command from the answer, and is
quiet again. -/
lemma IsQuiet.executes (h : s.IsQuiet) (hmute : s.link.board.mute = false)
    (hanswer : Board.IsAnswer command (s.link.board.handle s.link.now command.line).1)
    (silent : Bool) :
    ∃ s', (execute command silent).run s = (Reply.ofAnswer command
        ((s.link.board.handle s.link.now command.line).1.map Frame.received), s') ∧
      s'.IsQuiet ∧ s'.link.board = (s.link.board.handle s.link.now command.line).2 := by
  obtain ⟨log, hrun⟩ := h.execute_run_of_unmuted hanswer.isUnbrokenAnswer hmute silent
  exact ⟨_, hrun, ⟨h.connected, h.buffer, h.arriving, h.unfinished⟩, rfl⟩

/-! ## Exchanges -/

lemma run_hear (command : Command) (s : Session Connection) :
    (hear command).run s = (.ok (if (s.afterLine command).2.link.board.mute then []
      else (s.afterLine command).1.map Frame.received), (s.afterLine command).2) := rfl

lemma exchange_run_of_mute (hmute : (s.afterLine command).2.link.board.mute = true) :
    (exchange command silent).run s =
      (.error .timeout, (s.afterLine command).2.noted silent (.sent command)) := by
  have hhear : (hear command).run s = (.ok [], (s.afterLine command).2) := by
    rw [run_hear, if_pos hmute]
  rw [exchange, Call.run_bind_of_ok hhear, Call.run_bind_of_ok (run_note _ _ _)]
  rfl

lemma exchange_run_of_answer {first : Frame} {rest : List Frame}
    (hmute : (s.afterLine command).2.link.board.mute = false)
    (hframes : (s.afterLine command).1 = first :: rest) :
    (exchange command silent).run s =
      (Reply.ofFrames command first.received (rest.map Frame.received),
        ((s.afterLine command).2.noted silent (.sent command)).noted silent
          (.received first.received)) := by
  have hhear : (hear command).run s =
      (.ok (first.received :: rest.map Frame.received), (s.afterLine command).2) := by
    rw [run_hear, hmute, hframes]
    rfl
  rw [exchange, Call.run_bind_of_ok hhear, Call.run_bind_of_ok (run_note _ _ _),
    Call.run_bind_of_ok (run_note _ _ _), Call.run_ofExcept]

/-- A command does not change whether the board is mute. -/
lemma mute_afterLine (command : Command) (s : Session Connection) :
    (s.afterLine command).2.link.board.mute = s.link.board.mute :=
  (Board.sameSetup_handle s.link.now command s.link.board).1.mute

@[simp] lemma link_noted (silent : Bool) (entry : LogEntry) (s : Session Connection) :
    (s.noted silent entry).link = s.link := by
  cases silent <;> rfl

section Answer

variable (hanswer : Board.IsUnbrokenAnswer command (s.afterLine command).1)

include hanswer

/-- **One exchange.** A quiet session whose board answers a command completely executes it as if
there were no bytes between them. -/
theorem IsQuiet.execute_run (h : s.IsQuiet) :
    (execute command silent).run s = (exchange command silent).run s := by
  obtain ⟨first, rest, hframes, -⟩ := hanswer.isComplete
  cases hmute : (s.afterLine command).2.link.board.mute with
  | true => rw [execute_run_of_mute h hmute, exchange_run_of_mute hmute]
  | false =>
    rw [execute_run_of_answer h hanswer hmute hframes, exchange_run_of_answer hmute hframes]

/-- What an exchange leaves behind is the session after the line, with a longer log. -/
lemma exchange_session (silent : Bool) : ∃ log : CommandLog,
    ((exchange command silent).run s).2 = { (s.afterLine command).2 with log := log } := by
  obtain ⟨first, rest, hframes, -⟩ := hanswer.isComplete
  cases hmute : (s.afterLine command).2.link.board.mute with
  | true =>
    rw [exchange_run_of_mute hmute]
    cases silent <;> exact ⟨_, rfl⟩
  | false =>
    rw [exchange_run_of_answer hmute hframes]
    cases silent <;> exact ⟨_, rfl⟩

/-- An exchange leaves nothing on its way. -/
lemma IsQuiet.isQuiet_exchange (h : s.IsQuiet) : ((exchange command silent).run s).2.IsQuiet := by
  obtain ⟨log, hsession⟩ := exchange_session hanswer silent
  rw [hsession]
  exact ⟨h.connected, h.buffer, h.arriving, h.unfinished⟩

/-- The reply of an exchange is read from the answer of the board. -/
lemma exchange_result : ((exchange command silent).run s).1 =
    if s.link.board.mute then .error .timeout
    else Reply.ofAnswer command
      ((s.link.board.handle s.link.now command.line).1.map Frame.received) := by
  obtain ⟨first, rest, hframes, -⟩ := hanswer.isComplete
  have hanswered : (s.link.board.handle s.link.now command.line).1 = first :: rest := hframes
  rw [← mute_afterLine command s]
  cases hmute : (s.afterLine command).2.link.board.mute with
  | true => simp [exchange_run_of_mute hmute]
  | false => simp [exchange_run_of_answer hmute hframes, hanswered, Reply.ofAnswer_cons]

/-- An exchange gives up exactly when the board is mute. -/
lemma exchange_eq_timeout_iff :
    ((exchange command silent).run s).1 = .error .timeout ↔ s.link.board.mute = true := by
  obtain ⟨first, rest, hframes, hlength⟩ := hanswer.isComplete
  rw [← mute_afterLine command s]
  cases hmute : (s.afterLine command).2.link.board.mute with
  | true => simp [exchange_run_of_mute hmute]
  | false =>
    have hreply : Reply.ofFrames command first.received (rest.map Frame.received) ≠
        .error .timeout := Reply.ofFrames_ne_timeout (by simpa using hlength)
    simp [exchange_run_of_answer hmute hframes, hreply]

end Answer

/-! ## Sessions in touch -/

/-- A session in touch with its board: nothing is on its way, and the board answers every command
completely and unbroken, also after some more runs. -/
structure IsInTouch (runs : Nat) (s : Session Connection) : Prop where
  quiet : s.IsQuiet
  isUnbroken : s.link.board.IsUnbroken
  hasRoom : s.link.board.HasRoomFor runs

variable {runs : Nat}

lemma IsInTouch.mono {fewer : Nat} (h : s.IsInTouch runs) (hle : fewer ≤ runs) :
    s.IsInTouch fewer :=
  ⟨h.quiet, h.isUnbroken, h.hasRoom.mono hle⟩

/-- The answer of the board to a command. -/
lemma IsInTouch.isUnbrokenAnswer (h : s.IsInTouch runs) (command : Command) :
    Board.IsUnbrokenAnswer command (s.afterLine command).1 :=
  Board.isUnbrokenAnswer_handle h.isUnbroken h.hasRoom _ command

/-- After an exchange the session is in touch again. -/
lemma IsInTouch.after_exchange (h : s.IsInTouch (runs + command.startCount)) :
    ((exchange command silent).run s).2.IsInTouch runs := by
  have hquiet : ((exchange command silent).run s).2.IsQuiet :=
    h.quiet.isQuiet_exchange (h.isUnbrokenAnswer command)
  obtain ⟨log, hsession⟩ := exchange_session (h.isUnbrokenAnswer command) silent
  rw [hsession] at hquiet ⊢
  exact ⟨hquiet, h.isUnbroken.handle Text.isSpacewise_isUnbroken _ command, h.hasRoom.handle _⟩

/-- A command that is executed leaves the session in touch too. -/
lemma IsInTouch.after_execute (h : s.IsInTouch (runs + command.startCount)) :
    ((execute command silent).run s).2.IsInTouch runs := by
  rw [h.quiet.execute_run (h.isUnbrokenAnswer command)]
  exact h.after_exchange

/-- What becomes of a session that is in touch with a board that is not mute: it takes the reply
from the answer, and logs the command and the first frame unless it is silent. -/
lemma IsInTouch.execute_run (h : s.IsInTouch runs) (hmute : s.link.board.mute = false)
    (command : Command) (silent : Bool) :
    ∃ first rest, (s.afterLine command).1 = first :: rest ∧
      (execute command silent).run s =
        (Reply.ofAnswer command ((s.afterLine command).1.map Frame.received),
          ((s.afterLine command).2.noted silent (.sent command)).noted silent
            (.received first.received)) := by
  have hanswer := h.isUnbrokenAnswer command
  obtain ⟨first, rest, hframes, -⟩ := hanswer.isComplete
  refine ⟨first, rest, hframes, ?_⟩
  rw [execute_run_of_answer h.quiet hanswer ((mute_afterLine command s).trans hmute) hframes,
    hframes, List.map_cons, Reply.ofAnswer_cons]

/-- A session in step with its board: in touch with it, and all texts of the board are on one
line. -/
structure IsInStep (runs : Nat) (s : Session Connection) : Prop where
  quiet : s.IsQuiet
  isOneLine : s.link.board.IsOneLine
  hasRoom : s.link.board.HasRoomFor runs

lemma IsInStep.mono {fewer : Nat} (h : s.IsInStep runs) (hle : fewer ≤ runs) : s.IsInStep fewer :=
  ⟨h.quiet, h.isOneLine, h.hasRoom.mono hle⟩

lemma IsInStep.isInTouch (h : s.IsInStep runs) : s.IsInTouch runs :=
  ⟨h.quiet, h.isOneLine.isUnbroken, h.hasRoom⟩

section InStep

variable (h : s.IsInStep runs)

include h

lemma IsInStep.execute_run : (execute command silent).run s = (exchange command silent).run s :=
  h.quiet.execute_run (h.isInTouch.isUnbrokenAnswer command)

lemma IsInStep.isQuiet_exchange : ((exchange command silent).run s).2.IsQuiet :=
  h.quiet.isQuiet_exchange (h.isInTouch.isUnbrokenAnswer command)

lemma IsInStep.exchange_result : ((exchange command silent).run s).1 =
    if s.link.board.mute then .error .timeout
    else Reply.ofAnswer command
      ((s.link.board.handle s.link.now command.line).1.map Frame.received) :=
  Session.exchange_result (h.isInTouch.isUnbrokenAnswer command)

lemma IsInStep.exchange_eq_timeout_iff :
    ((exchange command silent).run s).1 = .error .timeout ↔ s.link.board.mute = true :=
  Session.exchange_eq_timeout_iff (h.isInTouch.isUnbrokenAnswer command)

end InStep

/-- After an exchange the session is in step again. -/
lemma IsInStep.after_exchange (h : s.IsInStep (runs + command.startCount)) :
    ((exchange command silent).run s).2.IsInStep runs := by
  have hafter : ((exchange command silent).run s).2.IsInTouch runs := h.isInTouch.after_exchange
  obtain ⟨log, hsession⟩ := exchange_session (h.isInTouch.isUnbrokenAnswer command) silent
  refine ⟨hafter.quiet, ?_, hafter.hasRoom⟩
  rw [hsession]
  exact h.isOneLine.handle _ command

end Session

end TimingBoard
