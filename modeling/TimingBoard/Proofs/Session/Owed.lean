import TimingBoard.Proofs.Board.Answer
import TimingBoard.Proofs.Link.Late
import TimingBoard.Proofs.Session.Reading

/-!
# Replies that are owed

A session gives up waiting when a frame does not come in time, and goes on with the next command.
The frame it waited for may still come.  It is owed then, and the session has no way to tell it from
the reply to the next command: replies are a queue.  Whatever is owed when a command is sent is
taken first, and only then the answer to the command itself.

So the reply to a command is its own when nothing is owed, and then nothing is owed afterwards
either, unless the session gives up.  When something is owed, the reply begins with a frame that was
sent in answer to an earlier command.
-/

namespace TimingBoard.Session

/-! ## Reading from a queue -/

section Queue

variable {L : Type} [Link L] [Link.InOrder L] {s : Session L} {l : L} {frames : List Frame}

/-- A session that still has to hand out some frames, over a link which is as `l` apart from
bytes. -/
structure Owes (l : L) (s : Session L) (frames : List Frame) : Prop where
  canRead : s.CanRead
  awaited_eq : s.awaited = frames
  remainder_eq : remainder s.unread.bytes = []
  link_eq : Link.InOrder.withoutBytes s.link = l

lemma Owes.noted (h : Owes l s frames) (silent : Bool) (entry : LogEntry) :
    Owes l (s.noted silent entry) frames := by
  have hunread := unread_noted s silent entry
  refine ⟨h.canRead.noted silent entry, ?_, ?_, ?_⟩
  · rw [awaited, hunread]
    exact h.awaited_eq
  · rw [hunread]
    exact h.remainder_eq
  · cases silent <;> exact h.link_eq

/-- A read takes the next of the owed frames, or gives up. -/
lemma readsFrom_owes (l : L) :
    Call.ReadsFrom (Owes l) (Link.InOrder.isPrompt L) readFrame Reply.nextOf := by
  rintro s frames ⟨hread, hawaited, hremainder, hlink⟩
  have hwait := afterWait_readFrame hread
  have hlink' : Link.InOrder.withoutBytes (readFrame.run s).2.link = l :=
    (congrArg Session.link hwait.withoutBytes_eq).trans hlink
  obtain ⟨hrest, ⟨f, hf, hfirst⟩ | ⟨htimeout, hsame, hdry⟩⟩ := hwait.awaits.awaited_cases
  · rw [hawaited] at hfirst
    rw [hfirst]
    exact ⟨_, List.suffix_cons _ _, ⟨hwait.canRead, rfl, hrest.trans hremainder, hlink'⟩,
      Or.inl (by rw [hf]; rfl)⟩
  · refine ⟨frames, List.suffix_rfl,
      ⟨hwait.canRead, hsame.trans hawaited, hrest.trans hremainder, hlink'⟩, ?_⟩
    by_cases hprompt : Link.InOrder.isPrompt L
    · have hnone : frames = [] := hawaited.symm.trans (hdry hprompt).1
      exact Or.inl (by rw [hnone, htimeout]; rfl)
    · exact Or.inr ⟨hprompt, htimeout⟩

/-- What a session does once a command was sent. -/
def understand (command : Command) (silent : Bool) : Call (Session L) Reply := do
  note silent (.sent command)
  let frame ← readFrame
  note silent (.received frame)
  Reply.decode readFrame command frame

/-- The reply to a command is read from the owed frames. -/
lemma readsFrom_understand (l : L) (command : Command) (silent : Bool) :
    Call.ReadsFrom (Owes l) (Link.InOrder.isPrompt L) (understand command silent)
      (Reply.nextOf >>= Reply.decode Reply.nextOf command) := by
  have hnote (entry : LogEntry) :
      Call.ReadsFrom (Owes l) (Link.InOrder.isPrompt L) (note silent entry) (pure ()) := by
    intro s frames hs
    rw [run_note]
    exact ⟨frames, List.suffix_rfl, hs.noted silent entry, Or.inl rfl⟩
  exact (hnote _).bind fun _ => (readsFrom_owes l).bind fun frame =>
    (hnote _).bind fun _ => Call.readsFrom_decode (readsFrom_owes l) command frame

end Queue

/-! ## Over a device that answers late -/

/-- All answers to some lines, one after the other, as they are read. -/
def answersTo (answer : List Text → List Frame) (heard : List Text) : List Frame :=
  (List.range heard.length).flatMap fun n => (answer (heard.take (n + 1))).map Frame.received

/-- The answer of the device to a command that is sent now, as it is read. -/
def ownAnswer (command : Command) (s : Session LateLink) : List Frame :=
  (s.link.answer (s.link.heard ++ [command.line])).map Frame.received

/-- A session over a device that answers every command completely. What is unread consists of whole
lines, and is the end of all answers. -/
structure IsServed (s : Session LateLink) : Prop where
  canRead : s.CanRead
  remainder_eq : remainder s.unread.bytes = []
  unfinished : s.link.unfinished = []
  isAnswer : ∀ (heard : List Text) (command : Command),
    Board.IsAnswer command (s.link.answer (heard ++ [command.line]))
  awaited_suffix : s.awaited <:+ answersTo s.link.answer s.link.heard

lemma answersTo_append (answer : List Text → List Frame) (heard : List Text) (line : Text) :
    answersTo answer (heard ++ [line]) =
      answersTo answer heard ++ (answer (heard ++ [line])).map Frame.received := by
  have hbefore : (List.range heard.length).map (fun n =>
      (answer ((heard ++ [line]).take (n + 1))).map Frame.received) =
        (List.range heard.length).map fun n =>
          (answer (heard.take (n + 1))).map Frame.received := by
    refine List.map_congr_left fun n hn => ?_
    rw [List.take_append_of_le_length (Nat.succ_le_of_lt (List.mem_range.1 hn))]
  rw [answersTo, List.length_append, List.length_singleton, List.range_succ, List.flatMap_append,
    List.flatMap_singleton, List.take_of_length_le (by simp)]
  exact congrArg (fun before => List.flatten before ++ _) hbefore

variable {s s' : Session LateLink} {command : Command} {silent : Bool}
  {result : Except Error Reply}

/-- The session once a command was sent: the device has heard it, and the answer is on its way. -/
def asked (command : Command) (s : Session LateLink) : Session LateLink :=
  { s with link := { s.link with
    heard := s.link.heard ++ [command.line]
    onTheWay := s.link.onTheWay ++ (s.link.cutting 0).pieces
      ((s.link.answer (s.link.heard ++ [command.line])).flatMap Frame.wire)
    cutting := fun n => s.link.cutting (n + 1) } }

lemma IsServed.run_send (h : s.IsServed) (command : Command) :
    (send command).run s = (.ok (), s.asked command) := by
  have hconnected : ensureConnected.run s = (.ok (), s) := by
    simp [ensureConnected, Call.run, h.canRead.connected]
  have hwrite : Link.write command.encode s.link = (.ok (), (s.asked command).link) :=
    LateLink.write_encode h.unfinished command
  rw [send, Call.run_bind_of_ok hconnected]
  change transmit command.encode s = _
  rw [transmit, hwrite]
  rfl

/-- A command that is sent is heard, and its answer is owed after all that was owed before. -/
lemma IsServed.owes_asked (h : s.IsServed) (command : Command) :
    Owes (Link.InOrder.withoutBytes (s.asked command).link) (s.asked command)
      (s.awaited ++ s.ownAnswer command) := by
  have hanswer := (h.isAnswer s.link.heard command).isUnbrokenAnswer.isUnbroken
  obtain ⟨hframes, hrest⟩ := ReceiveBuffer.framesOf_wire hanswer
  have hunread : (s.asked command).unread.bytes = s.unread.bytes ++
      (s.link.answer (s.link.heard ++ [command.line])).flatMap Frame.wire := by
    have hcoming : (s.asked command).unread.bytes =
        s.buffer.bytes ++ (s.link.onTheWay ++ (s.link.cutting 0).pieces
          ((s.link.answer (s.link.heard ++ [command.line])).flatMap Frame.wire)).flatten := rfl
    rw [hcoming, List.flatten_append, (s.link.cutting 0).flatten_pieces, ← List.append_assoc]
    rfl
  refine ⟨⟨h.canRead.connected, fun piece hpiece => ?_⟩, ?_, ?_, rfl⟩
  · rcases List.mem_append.1 hpiece with hbefore | hown
    · exact h.canRead.isOpen piece hbefore
    · exact (s.link.cutting 0).ne_nil_of_mem _ hown
  · rw [awaited, hunread, framesOf_append_of_remainder h.remainder_eq, hframes]
    rfl
  · rw [hunread, remainder_append_of_remainder h.remainder_eq, hrest]

/-- A session after a command was executed, with the result. The reply is read from what is owed,
the answer to the command coming last, unless the session gives up. -/
structure HasExecuted (command : Command) (s s' : Session LateLink) (result : Except Error Reply) :
    Prop where
  isServed : s'.IsServed
  answer_eq : s'.link.answer = s.link.answer
  heard_eq : s'.link.heard = s.link.heard ++ [command.line]
  result_eq : result = .error .timeout ∨
    (Reply.nextOf >>= Reply.decode Reply.nextOf command).run (s.awaited ++ s.ownAnswer command) =
      (result, s'.awaited)

/-- **Replies are a queue.** A command takes its reply from what is owed, and leaves the rest. -/
theorem IsServed.hasExecuted (h : s.IsServed) (command : Command) (silent : Bool) :
    HasExecuted command s ((execute command silent).run s).2
      ((execute command silent).run s).1 := by
  have hexecute : execute (L := LateLink) command silent =
      send command >>= fun _ => understand command silent := rfl
  rw [hexecute, Call.run_bind_of_ok (h.run_send command)]
  obtain ⟨left, hsuffix, howes, hresult⟩ :=
    readsFrom_understand _ command silent _ _ (h.owes_asked command)
  generalize (understand command silent).run (s.asked command) = after at howes hresult
  obtain ⟨hanswer, hheard, hunfinished⟩ := LateLink.eq_of_withoutBytes_eq howes.link_eq
  change after.2.link.answer = s.link.answer at hanswer
  change after.2.link.heard = s.link.heard ++ [command.line] at hheard
  refine ⟨⟨howes.canRead, howes.remainder_eq, hunfinished.trans h.unfinished, ?_, ?_⟩, hanswer,
    hheard, ?_⟩
  · rw [hanswer]
    exact h.isAnswer
  · rw [howes.awaited_eq, hanswer, hheard, answersTo_append]
    obtain ⟨before, hbefore⟩ := h.awaited_suffix
    refine hsuffix.trans ⟨before, ?_⟩
    rw [← hbefore, List.append_assoc]
    rfl
  · rw [howes.awaited_eq]
    exact hresult.symm.imp And.right id

/-- With nothing owed before, the reply is read from the answer to the command, and nothing is owed
afterwards. -/
lemma HasExecuted.of_awaited_nil (h : HasExecuted command s s' result) (hs : s.IsServed)
    (hnone : s.awaited = []) : result = .error .timeout ∨
      (result = Reply.ofAnswer command (s.ownAnswer command) ∧ s'.awaited = []) := by
  obtain ⟨first, rest, hanswer, hlength⟩ := (hs.isAnswer s.link.heard command).isComplete
  have hown : s.ownAnswer command = first.received :: rest.map Frame.received := by
    rw [ownAnswer, hanswer, List.map_cons]
  refine h.result_eq.imp_right fun hqueue => ?_
  rw [hnone, List.nil_append, hown, Call.run_bind_of_ok (Reply.nextOf_run_cons _ _),
    Reply.decode_run_of_length (by simpa using hlength), Prod.mk.injEq] at hqueue
  rw [hown, Reply.ofAnswer_cons]
  exact ⟨hqueue.1.symm, hqueue.2.symm⟩

/-- Reading a frame by itself takes it off what is owed. -/
lemma IsServed.readFrame (h : s.IsServed) :
    (readFrame.run s).2.IsServed ∧ (readFrame.run s).2.link.answer = s.link.answer := by
  have howes : Owes (Link.InOrder.withoutBytes s.link) s s.awaited :=
    ⟨h.canRead, rfl, h.remainder_eq, rfl⟩
  obtain ⟨left, hsuffix, hleft, -⟩ := readsFrom_owes _ s s.awaited howes
  obtain ⟨hanswer, hheard, hunfinished⟩ := LateLink.eq_of_withoutBytes_eq hleft.link_eq
  refine ⟨⟨hleft.canRead, hleft.remainder_eq, hunfinished.trans h.unfinished, ?_, ?_⟩, hanswer⟩
  · rw [hanswer]
    exact h.isAnswer
  · rw [hleft.awaited_eq, hanswer, hheard]
    exact hsuffix.trans h.awaited_suffix

end TimingBoard.Session
