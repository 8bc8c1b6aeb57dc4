import Mathlib.Data.List.DropRight
import TimingBoard.Link.Script
import TimingBoard.Proofs.Session.Verdict

/-!
# The log

What a session has to log is a trace: the execution of a command that is not silent adds the command
once it is sent, and the first frame of its reply once that is read, whether or not the reply can
then be understood.  Nothing else that is done with a session adds to it.

The log keeps the end of the trace.  A full log gives up its oldest entry for each new one, so that
it always holds as many of the last entries as there is room for, however often it has been full.
To drain the log is to begin a new trace.
-/

namespace TimingBoard

/-! ## The last entries -/

namespace CommandLog

/-- The log of a trace. -/
def ofTrace (trace : List LogEntry) : CommandLog := ⟨trace.rtake capacity⟩

lemma size_ofTrace (trace : List LogEntry) :
    (ofTrace trace).size = min capacity trace.length := by
  simp only [size, ofTrace, List.rtake_eq_reverse_take_reverse, List.length_reverse,
    List.length_take]

lemma size_ofTrace_le (trace : List LogEntry) : (ofTrace trace).size ≤ capacity := by
  rw [size_ofTrace]
  exact Nat.min_le_left _ _

/-- An entry that is pushed is the last entry of the trace. -/
lemma push_ofTrace (trace : List LogEntry) (entry : LogEntry) :
    (ofTrace trace).push entry = ofTrace (trace ++ [entry]) := by
  have hlength : (trace ++ [entry]).length = trace.length + 1 := by simp
  by_cases hfull : capacity ≤ trace.length
  · have hsize : (ofTrace trace).size = capacity := by
      rw [size_ofTrace, Nat.min_eq_left hfull]
    rw [push, if_pos hsize]
    simp only [ofTrace, List.rtake, hlength, List.drop_drop, CommandLog.mk.injEq]
    have hroom : 1 ≤ capacity := by decide
    rw [Nat.sub_add_comm hfull, List.drop_append_of_le_length (by omega)]
  · have hroom : trace.length + 1 ≤ capacity := Nat.lt_of_not_le hfull
    have hsize : (ofTrace trace).size ≠ capacity := by
      rw [size_ofTrace, Nat.min_eq_right (Nat.le_of_lt hroom)]
      exact Nat.ne_of_lt hroom
    rw [push, if_neg hsize]
    simp only [ofTrace, List.rtake, hlength, Nat.sub_eq_zero_of_le hroom,
      Nat.sub_eq_zero_of_le (Nat.le_of_lt hroom), List.drop_zero]

/-- Entries that are pushed one after the other are the last entries of the trace. -/
lemma foldl_push_ofTrace (trace entries : List LogEntry) :
    entries.foldl push (ofTrace trace) = ofTrace (trace ++ entries) := by
  induction entries generalizing trace with
  | nil => rw [List.append_nil, List.foldl_nil]
  | cons entry entries ih =>
    rw [List.foldl_cons, push_ofTrace, ih, List.append_assoc, List.singleton_append]

end CommandLog

namespace Session

variable {L α β : Type}

/-! ## Calls that leave the log alone -/

/-- A session with another log. -/
def withLog (log : CommandLog) (s : Session L) : Session L := { s with log := log }

/-- A call that neither looks at the log nor changes it. -/
def LeavesLog (call : Call (Session L) α) : Prop :=
  ∀ s log, call.run (s.withLog log) = ((call.run s).1, (call.run s).2.withLog log)

lemma LeavesLog.log_run {call : Call (Session L) α} (h : LeavesLog call) (s : Session L) :
    (call.run s).2.log = s.log := by
  have hsame := h s s.log
  rw [show s.withLog s.log = s from rfl] at hsame
  rw [hsame]
  rfl

lemma leavesLog_ofExcept (x : Except Error α) : LeavesLog (L := L) (Call.ofExcept x) := by
  intro s log
  simp

lemma LeavesLog.bind {call : Call (Session L) α} {next : α → Call (Session L) β}
    (h : LeavesLog call) (hnext : ∀ a, LeavesLog (next a)) : LeavesLog (call >>= next) := by
  intro s log
  have hcall := h s log
  rcases hrun : call.run s with ⟨e | a, s'⟩
  · rw [hrun] at hcall
    rw [Call.run_bind_of_error hrun, Call.run_bind_of_error hcall]
  · rw [hrun] at hcall
    rw [Call.run_bind_of_ok hrun, Call.run_bind_of_ok hcall]
    exact hnext a s' log

lemma LeavesLog.map {call : Call (Session L) α} (h : LeavesLog call) (f : α → β) :
    LeavesLog (f <$> call) :=
  h.bind fun a => leavesLog_ofExcept (.ok (f a))

lemma compatible_leavesLog :
    Call.Compatible fun (call : Call (Session L) _) (_ : Call Unit _) => LeavesLog call where
  ofExcept _ := leavesLog_ofExcept _
  bind := LeavesLog.bind

lemma leavesLog_note_silent (entry : LogEntry) : LeavesLog (L := L) (note true entry) :=
  leavesLog_ofExcept (.ok ())

lemma leavesLog_ensureConnected : LeavesLog (ensureConnected (L := L)) := by
  intro s log
  cases hconnected : s.connected <;>
    simp [ensureConnected, Call.run, withLog, hconnected]

variable [Link L]

lemma leavesLog_setWait (wait : Span) : LeavesLog (setWait (L := L) wait) := by
  intro s log
  rcases hset : Link.setWait wait s.link with ⟨fault | ⟨⟩, link⟩ <;>
    simp [setWait, Call.run, withLog, hset]

lemma leavesLog_transmit (bytes : Bytes) : LeavesLog (transmit (L := L) bytes) := by
  intro s log
  rcases hwrite : Link.write bytes s.link with ⟨fault | ⟨⟩, link⟩
  · simp [transmit, Call.run, withLog, hwrite, lose]
  · rcases hflush : Link.flush link with ⟨fault | ⟨⟩, link'⟩ <;>
      simp [transmit, Call.run, withLog, hwrite, hflush, lose]

lemma leavesLog_awaitFrame : LeavesLog (awaitFrame (L := L)) := by
  intro s log
  change awaitFrame (s.withLog log) = ((awaitFrame s).1, (awaitFrame s).2.withLog log)
  fun_induction awaitFrame s with
  | case1 s frame buffer hframe => exact awaitFrame_of_frame hframe
  | case2 s buffer hnone link hread =>
    rw [awaitFrame_of_read (s := s.withLog log) hnone hread]
    rfl
  | case3 s buffer hnone chunk link hread hchunk ih =>
    rw [awaitFrame_of_read (s := s.withLog log) hnone hread, ← ih]
    simp [hchunk, withLog]
  | case4 s buffer hnone fault link hread hkind ih =>
    rw [awaitFrame_of_read (s := s.withLog log) hnone hread, ← ih]
    simp [hkind, withLog]
  | case5 s buffer hnone fault link hread hkind hwait =>
    rw [awaitFrame_of_read (s := s.withLog log) hnone hread]
    simp [hkind, hwait, withLog]
  | case6 s buffer hnone fault link hread hkind hwait =>
    rw [awaitFrame_of_read (s := s.withLog log) hnone hread]
    simp [hkind, hwait, withLog, lose]

lemma leavesLog_send (command : Command) : LeavesLog (send (L := L) command) :=
  leavesLog_ensureConnected.bind fun _ => leavesLog_transmit _

lemma leavesLog_readFrame : LeavesLog (readFrame (L := L)) :=
  leavesLog_ensureConnected.bind fun _ => leavesLog_awaitFrame

/-- To understand a reply is not logged, however many frames it takes and whatever comes of it. -/
lemma leavesLog_decode (command : Command) (frame : Frame) :
    LeavesLog (Reply.decode (readFrame (L := L)) command frame) :=
  @Call.Compatible.decode (Session L) Unit _ compatible_leavesLog readFrame (Call.fail .timeout)
    leavesLog_readFrame command frame

lemma leavesLog_execute_silent (command : Command) : LeavesLog (execute (L := L) command true) :=
  (leavesLog_send command).bind fun _ => (leavesLog_note_silent _).bind fun _ =>
    leavesLog_readFrame.bind fun frame => (leavesLog_note_silent _).bind fun _ =>
      leavesLog_decode command frame

/-! ## What is logged -/

/-- What there is to log of the execution of a command: the command if it is sent, and then the
first frame of the reply if one is read. -/
def logged (command : Command) (s : Session L) : List LogEntry :=
  match (send command).run s with
  | (.error _, _) => []
  | (.ok (), s) => .sent command :: (readFrame.run s).1.toOption.toList.map .received

lemma logged_of_send {command : Command} {s s₁ : Session L}
    (hsend : (send command).run s = (.ok (), s₁)) :
    s.logged command = .sent command :: (readFrame.run s₁).1.toOption.toList.map .received := by
  rw [logged, hsend]

/-- A command that is executed logs what there is to log of it. -/
lemma log_execute (command : Command) (s : Session L) :
    ((execute command false).run s).2.log = (s.logged command).foldl CommandLog.push s.log := by
  have hkept := (leavesLog_send command).log_run s
  rcases hsend : (send command).run s with ⟨e | ⟨⟩, s₁⟩
  · rw [hsend] at hkept
    rw [execute, Call.run_bind_of_error hsend, logged, hsend]
    exact hkept
  rw [hsend] at hkept
  have hread := leavesLog_readFrame s₁ (s.log.push (.sent command))
  have hnoted : s₁.noted false (.sent command) = s₁.withLog (s.log.push (.sent command)) := by
    rw [← hkept]
    rfl
  rw [execute, Call.run_bind_of_ok hsend, Call.run_bind_of_ok (run_note _ _ _), hnoted,
    logged_of_send hsend]
  rcases hframe : readFrame.run s₁ with ⟨e | frame, s₂⟩
  · rw [hframe] at hread
    rw [Call.run_bind_of_error hread]
    rfl
  · rw [hframe] at hread
    rw [Call.run_bind_of_ok hread, Call.run_bind_of_ok (run_note _ _ _),
      (leavesLog_decode command frame).log_run]
    rfl

end Session

/-- What there is to log when a session is used: a command that is executed and not silent. -/
def SessionUse.logged {L : Type} [Link L] : SessionUse → Session L → List LogEntry
  | act (.execute command false), s => s.logged command
  | act (.executeLine typed false), s =>
    match Command.read typed with
    | .ok command => s.logged command
    | .error _ => []
  | _, _ => []

variable {L : Type} [Link L]

/-- A use of a session logs what there is to log of it. -/
lemma SessionUse.log_perform (use : SessionUse) (s : Session L) :
    (use.perform.run s).2.log = (use.logged s).foldl CommandLog.push s.log := by
  cases use with
  | setWait wait => exact ((Session.leavesLog_setWait wait).map _).log_run s
  | act what =>
    rw [perform, Call.run_map_snd]
    cases what with
    | send command => exact ((Session.leavesLog_send command).map _).log_run s
    | readFrame => exact (Session.leavesLog_readFrame.map _).log_run s
    | execute command silent =>
      rw [SessionAct.perform, Call.run_map_snd]
      cases silent with
      | true => exact (Session.leavesLog_execute_silent command).log_run s
      | false => exact Session.log_execute command s
    | executeLine typed silent =>
      rw [SessionAct.perform, Call.run_map_snd, Session.executeLine]
      cases hread : Command.read typed with
      | error cause => cases silent <;> simp only [logged, hread] <;> rfl
      | ok command =>
        cases silent with
        | true => exact (Session.leavesLog_execute_silent command).log_run s
        | false =>
          simp only [logged, hread]
          exact Session.log_execute command s

/-! ## A session and its log -/

/-- A step in the life of a session: it is used, or its log is drained. -/
inductive LogStep where
  | use (what : SessionUse)
  | drain

namespace LogStep

/-- The call of a step. It answers with the entries that are taken out of the log. -/
def perform : LogStep → Call (Session L) (List LogEntry)
  | use what => (fun _ => []) <$> what.perform
  | drain => Session.drainLog

/-- What there is to log since the last drain, at the end of some steps. At their beginning there
was something to log already. -/
def trace : List LogStep → Session L → List LogEntry → List LogEntry
  | [], _, earlier => earlier
  | use what :: rest, s, earlier => trace rest (what.perform.run s).2 (earlier ++ what.logged s)
  | drain :: rest, s, _ => trace rest (Session.drainLog.run s).2 []

/-- The log of a trace is the log of the longer trace after any steps. -/
lemma log_runAll (steps : List LogStep) {s : Session L} {earlier : List LogEntry}
    (hs : s.log = .ofTrace earlier) :
    (Call.runAll perform steps s).2.log = .ofTrace (trace steps s earlier) := by
  induction steps generalizing s earlier with
  | nil => exact hs
  | cons step rest ih =>
    cases step with
    | drain => exact ih (s := (Session.drainLog.run s).2) rfl
    | use what =>
      rw [Call.runAll_cons, perform, Call.run_map_snd]
      refine ih ?_
      rw [what.log_perform, hs, CommandLog.foldl_push_ofTrace]

/-- **The log is the end of the trace.** A session is begun over any link, and used in any way while
its log is drained now and then.  The log then holds the last thousand entries of what there was to
log since it was drained last, or all of them if there are fewer.  To drain it takes out these
entries, and leaves it empty. -/
theorem log_eq_rtake_trace (link : L) (steps : List LogStep) (fresh : Session L)
    (hstart : Session.start link = .ok fresh) :
    let after := (Call.runAll perform steps fresh).2
    let trace := LogStep.trace steps fresh []
    after.log.entries = trace.rtake 1000 ∧ after.log.size = min 1000 trace.length ∧
      after.log.size ≤ 1000 ∧
      Session.drainLog.run after = (.ok (trace.rtake 1000), { after with log := .empty }) := by
  intro after trace
  have hfresh : fresh.log = .ofTrace [] := by
    unfold Session.start at hstart
    split at hstart
    · rw [← Except.ok.inj hstart]
      rfl
    · cases hstart
  have hlog : after.log = .ofTrace trace := log_runAll steps hfresh
  have hentries : after.log.entries = trace.rtake 1000 := by
    rw [hlog, CommandLog.ofTrace, CommandLog.capacity]
  refine ⟨hentries, ?_, ?_, ?_⟩
  · rw [hlog]
    exact CommandLog.size_ofTrace trace
  · rw [hlog]
    exact CommandLog.size_ofTrace_le trace
  · have hdrain : Session.drainLog.run after =
        (.ok after.log.entries, { after with log := .empty }) := rfl
    rw [hdrain, hentries]

/-- A session on which a measurement is begun, a status is asked for in silence, and the log is
drained.  Then a line is typed that is no command, and two are that are: the reply to the first of
them cannot be understood, and there is none to the second. -/
theorem log_eq_rtake_trace_drained :
    let link := Script.ofChunks (["ACK\r\n", "VAL IDLE\r\n", "ACK\r\n"].map
      fun line => Text.toUtf8 line.toList)
    let line (typed : String) (silent : Bool) :=
      use (.act (.executeLine typed.toList silent))
    let steps := [line "MSR START" false, line "MSR STATUS" true, drain, line "START" false,
      line "GET TT" false, line "MSR STOP" false]
    let fresh : Session Script := ⟨link, .empty, Session.defaultWait, true, .empty⟩
    let after := (Call.runAll perform steps fresh).2
    Session.start link = .ok fresh ∧ after.log.size = 3 ∧ after.log.entries.map LogEntry.text =
      ["S: GET TT".toList, "R: ACK".toList, "S: MSR STOP".toList] := by
  intro link line steps fresh after
  have htexts : (LogStep.trace steps fresh []).map LogEntry.text =
      ["S: GET TT".toList, "R: ACK".toList, "S: MSR STOP".toList] := by decide +kernel
  have hlength : (LogStep.trace steps fresh []).length = 3 := by
    simpa using congrArg List.length htexts
  obtain ⟨hentries, hsize, -, -⟩ := log_eq_rtake_trace link steps fresh rfl
  refine ⟨rfl, hsize.trans (by rw [hlength]; rfl), ?_⟩
  rw [hentries, List.rtake, hlength]
  exact htexts

end LogStep

end TimingBoard
