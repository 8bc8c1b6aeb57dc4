import TimingBoard.Proofs.Client.Calls
import TimingBoard.Proofs.Session.Owed

/-!
# Clients of a device that answers late

A call may give up on a command whose reply is still on its way.  The client can be used on, but its
replies are a queue, and nothing tells it which command a frame belongs to.  So a call takes its
replies from what is owed to the client, and the answers to its own commands only come after that.

What can be promised depends on the queue alone.  When nothing is owed, every reply of a call is
read from the answer to its own command, or the call gives up.  In particular a start that succeeds
was then accepted.  When something is owed, the reply to the next command begins with a frame of an
earlier answer, and a run is followed that the device has refused to start.
-/

namespace TimingBoard

/-- What a device has heard from a client and what it owes, and the tracker of the client. -/
structure Dues where
  heard : List Text
  owed : List Frame
  tracker : RunTracker

/-- What a device has heard from a client, and what it owes. -/
def Client.dues (client : Client LateLink) : Dues :=
  ⟨client.session.link.heard, client.session.awaited, client.tracker⟩

namespace Dues

/-- The answer to a command that is sent now, as it is read. -/
def ownAnswer (answer : List Text → List Frame) (command : Command) (d : Dues) : List Frame :=
  (answer (d.heard ++ [command.line])).map Frame.received

/-- Changes the tracker. -/
def track (change : RunTracker → RunTracker) : Call Dues RunTracker := fun d =>
  (.ok d.tracker, { d with tracker := change d.tracker })

/-- The reply to a command that is sent now and takes what is owed first, and what is then left. -/
def taken (answer : List Text → List Frame) (command : Command) (d : Dues) :
    Except Error Reply × List Frame :=
  (Reply.nextOf >>= Reply.decode Reply.nextOf command).run (d.owed ++ d.ownAnswer answer command)

/-- Every command takes its reply from what is owed, the answer to it coming last. -/
def byQueue (answer : List Text → List Frame) : Executor Dues where
  execute command _ := fun d =>
    ((d.taken answer command).1,
      { d with heard := d.heard ++ [command.line], owed := (d.taken answer command).2 })
  track := track

/-- Every command takes its reply from the answer to it. -/
def byAnswers (answer : List Text → List Frame) : Executor Dues where
  execute command _ := fun d =>
    (Reply.ofAnswer command (d.ownAnswer answer command),
      { d with heard := d.heard ++ [command.line] })
  track := track

lemma byQueue_run (answer : List Text → List Frame) (command : Command) (silent : Bool) (d : Dues) :
    ((byQueue answer).execute command silent).run d = ((d.taken answer command).1,
      ⟨d.heard ++ [command.line], (d.taken answer command).2, d.tracker⟩) := rfl

lemma byAnswers_run (answer : List Text → List Frame) (command : Command) (silent : Bool)
    (d : Dues) : ((byAnswers answer).execute command silent).run d =
      (Reply.ofAnswer command (d.ownAnswer answer command),
        ⟨d.heard ++ [command.line], d.owed, d.tracker⟩) := rfl

end Dues

variable {α : Type} {answer : List Text → List Frame}

/-! ## One call -/

/-- A client that executes a command takes the reply from what is owed, or gives up. -/
lemma Client.overSession_byQueue {client : Client LateLink} (h : client.session.IsServed)
    (hanswer : client.session.link.answer = answer) (command : Command) (silent : Bool) :
    let after := (Client.overSession.execute command silent).run client
    after.2.session.IsServed ∧ after.2.session.link.answer = answer ∧
      (after.1 = .error .timeout ∨
        ((Dues.byQueue answer).execute command silent).run client.dues =
          (after.1, after.2.dues)) := by
  intro after
  have hexecuted := h.hasExecuted command silent
  refine ⟨hexecuted.isServed, hexecuted.answer_eq.trans hanswer, ?_⟩
  refine hexecuted.result_eq.imp_right fun hqueue => ?_
  have hheard : after.2.session.link.heard = client.session.link.heard ++ [command.line] :=
    hexecuted.heard_eq
  have htaken : client.dues.taken answer command = (after.1, after.2.session.awaited) := by
    rw [← hanswer]
    exact hqueue
  rw [Dues.byQueue_run, htaken]
  exact congrArg (fun heard => (after.1, Dues.mk heard _ _)) hheard.symm

/-- A dialogue takes its replies from what is owed, or gives up. -/
lemma Dialogue.follow_byQueue (d : Dialogue α) {client : Client LateLink}
    (h : client.session.IsServed) (hanswer : client.session.link.answer = answer) :
    let after := (d.follow Client.overSession).run client
    after.2.session.IsServed ∧ after.2.session.link.answer = answer ∧
      (after.1 = .error .timeout ∨
        (d.follow (Dues.byQueue answer)).run client.dues = (after.1, after.2.dues)) := by
  induction d generalizing client with
  | stop result =>
    simp only [follow, Call.run_ofExcept]
    exact ⟨h, hanswer, Or.inr trivial⟩
  | ask command silent next ih =>
    obtain ⟨hserved, hsame, hreply⟩ := Client.overSession_byQueue h hanswer command silent
    rcases hrun : (Client.overSession.execute command silent).run client with ⟨_ | reply, client'⟩
    · rw [hrun] at hserved hsame hreply
      simp only [follow]
      rw [Call.run_bind_of_error hrun]
      refine ⟨hserved, hsame, hreply.imp (fun hgaveUp => ?_) fun hqueue => ?_⟩
      · simpa using hgaveUp
      · exact Call.run_bind_of_error hqueue
    · rw [hrun] at hserved hsame hreply
      simp only [follow]
      rw [Call.run_bind_of_ok hrun]
      have hqueue := hreply.resolve_left (by simp)
      rw [Call.run_bind_of_ok hqueue]
      exact ih reply hserved hsame
  | track change next ih =>
    have hnext : Session.IsServed
        ({ client with tracker := change client.tracker } : Client LateLink).session := h
    exact ih client.tracker hnext hanswer

section Nothing

variable (hcomplete : ∀ (heard : List Text) (command : Command),
  Board.IsAnswer command (answer (heard ++ [command.line])))

include hcomplete

/-- With nothing owed, a command takes its reply from the answer to it, and leaves nothing. -/
lemma Dues.byQueue_of_owed_nil {d : Dues} (hnone : d.owed = []) (command : Command)
    (silent : Bool) : ((byQueue answer).execute command silent).run d =
        ((byAnswers answer).execute command silent).run d ∧
      (((byAnswers answer).execute command silent).run d).2.owed = [] := by
  obtain ⟨first, rest, hanswer, hlength⟩ := (hcomplete d.heard command).isComplete
  have hown : d.ownAnswer answer command = first.received :: rest.map Frame.received := by
    rw [ownAnswer, hanswer, List.map_cons]
  have htaken : d.taken answer command =
      (Reply.ofAnswer command (d.ownAnswer answer command), []) := by
    rw [taken, hnone, List.nil_append, hown, Call.run_bind_of_ok (Reply.nextOf_run_cons _ _),
      Reply.decode_run_of_length (by simpa using hlength), Reply.ofAnswer_cons]
  rw [byQueue_run, byAnswers_run, htaken, hnone]
  exact ⟨rfl, rfl⟩

/-- With nothing owed, a dialogue takes each reply from the answer to the command asked. -/
lemma Dialogue.follow_byQueue_of_owed_nil (d : Dialogue α) {dues : Dues} (hnone : dues.owed = []) :
    (d.follow (Dues.byQueue answer)).run dues = (d.follow (Dues.byAnswers answer)).run dues ∧
      ((d.follow (Dues.byAnswers answer)).run dues).2.owed = [] := by
  induction d generalizing dues with
  | stop result =>
    refine ⟨rfl, ?_⟩
    simpa [follow] using hnone
  | ask command silent next ih =>
    obtain ⟨hsame, hleft⟩ := Dues.byQueue_of_owed_nil hcomplete hnone command silent
    rcases hrun : ((Dues.byAnswers answer).execute command silent).run dues with ⟨_ | reply, dues'⟩
    · rw [hrun] at hsame hleft
      simp only [follow]
      rw [Call.run_bind_of_error hsame, Call.run_bind_of_error hrun]
      exact ⟨rfl, hleft⟩
    · rw [hrun] at hsame hleft
      simp only [follow]
      rw [Call.run_bind_of_ok hsame, Call.run_bind_of_ok hrun]
      exact ih reply hleft
  | track change next ih =>
    have hnext : ({ dues with tracker := change dues.tracker } : Dues).owed = [] := hnone
    exact ih dues.tracker hnext

end Nothing

/-- A client that starts a run with nothing owed follows it exactly when the start succeeds, and
then the device has accepted it. -/
lemma Client.startRun_of_owed_nil {client : Client LateLink} (h : client.session.IsServed)
    (hanswer : client.session.link.answer = answer) (hnone : client.session.awaited = [])
    (length : TimeText) (now : Instant) :
    let after := (Client.startRun length now).run client
    (after.1 = .ok () ∧ after.2.tracker = client.tracker.start length now ∧
        ∃ payload rest, answer (client.session.link.heard ++ ["MSR START".toList]) =
          ⟨.accepted, payload⟩ :: rest) ∨
      ((∃ e, after.1 = .error e) ∧ after.2.tracker = client.tracker) := by
  intro after
  obtain ⟨command, hmake, hverb, hline⟩ : ∃ command : Command,
      Command.make .measure "START".toList = .ok command ∧ command.verb = .measure ∧
        command.line = "MSR START".toList := ⟨_, rfl, rfl, by decide⟩
  have hexecuted := h.hasExecuted command false
  rcases Dialogue.follow_tell_run Client.overSession hmake client with ⟨hack, hrun⟩ | ⟨e, hrun⟩
  · rw [Dialogue.follow_tell] at hrun
    have hafter : after = (.ok (), _) := Call.run_bind_of_ok hrun
    rw [hafter]
    refine Or.inl ⟨rfl, rfl, ?_⟩
    obtain ⟨first, rest, hframes, -⟩ := (h.isAnswer client.session.link.heard command).isComplete
    have hreply : Reply.ofAnswer command (client.session.ownAnswer command) = .ok .ack := by
      rcases hexecuted.of_awaited_nil h hnone with hgaveUp | ⟨hown, -⟩
      · exact absurd (hgaveUp.symm.trans hack) (by simp)
      · exact hown.symm.trans hack
    rw [Session.ownAnswer, hframes, List.map_cons, Reply.ofAnswer_cons] at hreply
    have htag : first.received.tag = .accepted :=
      Reply.tag_of_ofFrames_eq_ack (by simp [hverb]) hreply
    rw [Frame.received_tag] at htag
    refine ⟨first.payload, rest, ?_⟩
    rw [← hanswer, ← hline, hframes, ← htag]
  · rw [Dialogue.follow_tell] at hrun
    have hafter : after = (.error e, _) := Call.run_bind_of_error hrun
    rw [hafter]
    exact Or.inr ⟨⟨e, rfl⟩, rfl⟩

/-! ## All acts -/

/-- A client of a device that has heard nothing. -/
def Client.ofDevice (answer : List Text → List Frame) (cutting : Nat → Cutting)
    (arrived : Nat → Bool) : Client LateLink :=
  .ofSession ⟨.fresh answer cutting arrived, .empty, Session.defaultWait, true, .empty⟩

/-- Something that is done with a client. -/
inductive LateAct where
  /-- A command is executed over the session. -/
  | execute (command : Command) (silent : Bool)
  /-- A call of the client is made. -/
  | call (what : ClientCall)
  /-- A frame is read by itself. -/
  | readFrame
  /-- The wait for each read is set. -/
  | setWait (wait : Span)
  /-- The log is emptied. -/
  | drainLog

namespace LateAct

/-- The client after an act. -/
def after (client : Client LateLink) : LateAct → Client LateLink
  | execute command silent => ((Client.overSession.execute command silent).run client).2
  | call what => (what.perform.run client).2
  | readFrame => ((Client.onSession Session.readFrame).run client).2
  | setWait wait => ((Client.onSession (Session.setWait wait)).run client).2
  | drainLog => ((Client.onSession Session.drainLog).run client).2

/-- An act leaves a device that answers every command. -/
lemma isServed_after {client : Client LateLink} (h : client.session.IsServed)
    (hanswer : client.session.link.answer = answer) (act : LateAct) :
    (after client act).session.IsServed ∧ (after client act).session.link.answer = answer := by
  cases act with
  | execute command silent =>
    have hexecuted := Client.overSession_byQueue h hanswer command silent
    exact ⟨hexecuted.1, hexecuted.2.1⟩
  | call what =>
    have hcall := what.dialogue.follow_byQueue h hanswer
    rw [after, ClientCall.perform_eq_follow]
    exact ⟨hcall.1, hcall.2.1⟩
  | readFrame => exact ⟨h.readFrame.1, h.readFrame.2.trans hanswer⟩
  | setWait wait => exact ⟨⟨⟨h.canRead.connected, h.canRead.isOpen⟩, h.remainder_eq, h.unfinished,
      h.isAnswer, h.awaited_suffix⟩, hanswer⟩
  | drainLog => exact ⟨⟨⟨h.canRead.connected, h.canRead.isOpen⟩, h.remainder_eq, h.unfinished,
      h.isAnswer, h.awaited_suffix⟩, hanswer⟩

/-- A device that has heard nothing, but answers every command, owes nothing. -/
lemma isServed_ofDevice (hcomplete : ∀ (heard : List Text) (command : Command),
    Board.IsAnswer command (answer (heard ++ [command.line]))) (cutting : Nat → Cutting)
    (arrived : Nat → Bool) : (Client.ofDevice answer cutting arrived).session.IsServed := by
  have hunread : (Client.ofDevice answer cutting arrived).session.unread.bytes = [] := rfl
  refine ⟨⟨rfl, ?_⟩, ?_, rfl, hcomplete, ?_⟩
  · intro piece hpiece
    exact absurd hpiece List.not_mem_nil
  · rw [hunread, remainder_nil]
  · rw [Session.awaited, hunread, framesOf_nil]
    exact List.nil_suffix

/-- The device answers every command after all acts, too. -/
lemma isServed_foldl {client : Client LateLink} (h : client.session.IsServed)
    (hanswer : client.session.link.answer = answer) (acts : List LateAct) :
    (acts.foldl after client).session.IsServed ∧
      (acts.foldl after client).session.link.answer = answer := by
  induction acts generalizing client with
  | nil => exact ⟨h, hanswer⟩
  | cons act rest ih =>
    obtain ⟨hserved, hsame⟩ := isServed_after h hanswer act
    exact ih hserved hsame

/-- **Replies are matched by their order.** A device answers every command completely, but a client
may have given up before the answer arrives. What is owed to the client is always the end of all
answers, and the reply to a command is read from it and then from the answer to the command. So with
nothing owed every reply of a call is read from the answer to its own command, and nothing is owed
afterwards, unless the call gives up. A start that succeeds was then accepted by the device, and no
run is followed otherwise. -/
theorem reply_of_awaited
    (hcomplete : ∀ (heard : List Text) (command : Command),
      Board.IsAnswer command (answer (heard ++ [command.line])))
    (cutting : Nat → Cutting) (arrived : Nat → Bool) (acts : List LateAct) :
    let client := acts.foldl after (Client.ofDevice answer cutting arrived)
    let heard := client.session.link.heard
    let owed := client.session.awaited
    owed <:+ Session.answersTo answer heard ∧
    (∀ (command : Command) (silent : Bool),
      let own := (answer (heard ++ [command.line])).map Frame.received
      let executed := (Session.execute command silent).run client.session
      executed.1 = .error .timeout ∨
        (executed.1 = Reply.ofAnswer command (owed ++ own) ∧
          (owed = [] → executed.2.awaited = []))) ∧
    (owed = [] → ∀ call : ClientCall,
      let performed := call.perform.run client
      performed.1 = .error .timeout ∨
        ((call.dialogue.follow (Dues.byAnswers answer)).run client.dues =
            (performed.1, performed.2.dues) ∧
          performed.2.session.awaited = [])) ∧
    (owed = [] → ∀ (length : TimeText) (now : Instant),
      let started := (Client.startRun length now).run client
      (started.1 = .ok () ∧ started.2.tracker = client.tracker.start length now ∧
          ∃ payload rest, answer (heard ++ ["MSR START".toList]) = ⟨.accepted, payload⟩ :: rest) ∨
        ((∃ e, started.1 = .error e) ∧ started.2.tracker = client.tracker)) := by
  intro client heard owed
  obtain ⟨hserved, hanswer⟩ : client.session.IsServed ∧ client.session.link.answer = answer :=
    isServed_foldl (isServed_ofDevice hcomplete cutting arrived) rfl acts
  refine ⟨hanswer ▸ hserved.awaited_suffix, fun command silent => ?_, fun hnone call => ?_, ?_⟩
  · intro own executed
    have hexecuted := hserved.hasExecuted command silent
    have hown : client.session.ownAnswer command = own := by
      rw [Session.ownAnswer, hanswer]
    by_cases hgaveUp : executed.1 = .error .timeout
    · exact Or.inl hgaveUp
    · have hqueue := hexecuted.result_eq.resolve_left hgaveUp
      rw [hown] at hqueue
      refine Or.inr ⟨(congrArg Prod.fst hqueue).symm, fun hnone => ?_⟩
      exact ((hexecuted.of_awaited_nil hserved hnone).resolve_left hgaveUp).2
  · intro performed
    have hnothing : client.dues.owed = [] := hnone
    obtain ⟨-, -, hcall⟩ := call.dialogue.follow_byQueue hserved hanswer
    obtain ⟨hsame, hleft⟩ := call.dialogue.follow_byQueue_of_owed_nil hcomplete hnothing
    rw [← ClientCall.perform_eq_follow, hsame] at hcall
    refine hcall.imp_right fun hown => ⟨hown, ?_⟩
    rw [hown] at hleft
    exact hleft
  · exact fun hnone length now => Client.startRun_of_owed_nil hserved hanswer hnone length now

/-- A device that accepts everything but a start. -/
def startless (heard : List Text) : List Frame :=
  if heard.getLast? = some "MSR START".toList then Board.rejected "No board" else Board.accepted

lemma isAnswer_startless (heard : List Text) (command : Command) :
    Board.IsAnswer command (startless (heard ++ [command.line])) := by
  unfold startless
  split
  · exact Board.isAnswer_rejected command (by decide)
  · exact Board.isAnswer_accepted command

/-- With nothing owed, the refusal of a start is not missed, and no run is followed. -/
theorem reply_of_awaited_startless :
    let client := [call (.set (.autosave 1))].foldl after
      (Client.ofDevice startless (fun _ => .whole) fun _ => true)
    let started := (Client.startRun .unchanged ⟨0⟩).run client
    client.session.awaited = [] ∧ (∃ e, started.1 = .error e) ∧
      started.2.tracker = client.tracker := by
  intro client started
  have hnone : client.session.awaited = [] := by decide +kernel
  have hrun := reply_of_awaited isAnswer_startless (fun _ => .whole) (fun _ => true)
    [call (.set (.autosave 1))]
  obtain ⟨-, -, -, hstart⟩ := hrun
  refine ⟨hnone, ?_⟩
  rcases hstart hnone .unchanged ⟨0⟩ with ⟨-, -, payload, rest, haccepted⟩ | hrefused
  · simp [startless, Board.rejected] at haccepted
  · exact hrefused

/-- **Counterexample.** The acceptance of a setting arrives when the client has given up on it, and
is taken for the acceptance of a start. The device has refused the start, but the run is
followed. -/
theorem startRun_of_late_acceptance :
    let client := [call (.set (.autosave 1))].foldl after
      (Client.ofDevice startless (fun _ => .whole) fun n => n ≠ 0)
    let started := (Client.startRun .unchanged ⟨0⟩).run client
    started.1 = .ok () ∧ started.2.tracker.phase = .running ∧
      started.2.session.link.heard.getLast? = some "MSR START".toList ∧
      startless started.2.session.link.heard = Board.rejected "No board" := by
  decide +kernel

end LateAct

end TimingBoard
