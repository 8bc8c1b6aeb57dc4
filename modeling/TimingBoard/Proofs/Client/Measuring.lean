import TimingBoard.Proofs.Board.Measuring
import TimingBoard.Proofs.Client.Asking
import TimingBoard.Proofs.Reply.Measurements

/-!
# Runs and measurements, asked for by a client

What the calls of a client about runs and measurements come to, when nothing is on its way and the
board is not mute.  Each of them hands one line to the board, which has then ended a run that is
over, and takes the answer: a verdict, the status, the list of measurements or the statistics of
one.
-/

namespace TimingBoard

namespace Client

open Board

variable {client : Client Connection} {c : Command} {key value : Text}

/-- The board after a command about measurements. -/
lemma board_afterLine (h : c.MeasuresWith key value) (log : CommandLog) :
    (client.afterLine c log).board =
      ((client.readied c).answerMeasure client.now c.argument).2 :=
  congrArg Prod.snd (handle_of_measures h client.now client.board)

section Served

variable (h : client.IsServed) (hc : c.MeasuresWith key value)

include h hc

/-- A command about measurements is replied to from the answer of the board. -/
lemma IsServed.measure_run {frames : List Frame} {board : Board} {reply : Except Error Reply}
    (hanswer : (client.readied c).answerMeasure client.now c.argument = (frames, board))
    (hcomplete : IsAnswer c frames)
    (hreply : Reply.ofAnswer c (frames.map Frame.received) = reply) (silent : Bool) :
    ∃ log, (overSession.execute c silent).run client = (reply, client.afterLine c log) := by
  have hhandle := (handle_of_measures hc client.now client.board).trans hanswer
  obtain ⟨log, hexecute⟩ := h.execute_run hhandle hcomplete.isUnbrokenAnswer silent
  exact ⟨log, hexecute.trans (by rw [hreply])⟩

variable {request : Except Refusal Command} (hmake : request = .ok c)

include hmake

/-- A request that the board accepts succeeds. -/
lemma IsServed.tell_run_of_accepted {board : Board}
    (hanswer : (client.readied c).answerMeasure client.now c.argument = (accepted, board)) :
    ∃ log, (tell request).run client = (.ok (), client.afterLine c log) := by
  obtain ⟨log, hexecute⟩ := h.measure_run hc hanswer (isAnswer_accepted c)
    (Reply.ofAnswer_accepted (Or.inr hc.verb)) false
  exact ⟨log, ask_run_of_ok hmake hexecute rfl⟩

/-- A request that the board rejects fails with its reason. -/
lemma IsServed.ask_run_of_rejected {α : Type} {reason : String} {board : Board}
    (hanswer : (client.readied c).answerMeasure client.now c.argument = (rejected reason, board))
    (hreason : reason ∈ measureReasons) (silent : Bool) (kind : Reply → Option α) :
    ∃ log, (ask request silent kind).run client =
      (.error (.rejected c reason.toList), client.afterLine c log) := by
  have hline : ∀ reason ∈ measureReasons, Text.IsOneLine reason.toList := by decide
  have hascii : ∀ reason ∈ measureReasons, Text.IsAscii reason.toList := by decide
  obtain ⟨log, hexecute⟩ := h.measure_run hc hanswer (isAnswer_rejected c (hline _ hreason))
    (Reply.ofAnswer_rejected hc.verb (hascii _ hreason)) silent
  exact ⟨log, ask_run_of_error hmake hexecute⟩

end Served

/-! ## Runs -/

variable (h : client.IsServed)

include h

/-- A start succeeds when there is no run in progress, and only then. -/
lemma IsServed.startRun_run (length : TimeText) (now : Instant) :
    ∃ c : Command, c.MeasuresWith "START".toList [] ∧ ∃ log, (startRun length now).run client =
      if (client.readied c).runningSince.isSome then
        (.error (.rejected c "9:START".toList), client.afterLine c log)
      else
        (.ok (), { client.afterLine c log with tracker := client.tracker.start length now }) := by
  obtain ⟨c, hmake, hc⟩ := Command.exists_measures_word "START".toList (by decide)
  refine ⟨c, hc, ?_⟩
  have hanswer := answerMeasure_start hc client.now (client.readied c)
  cases hrun : (client.readied c).runningSince with
  | some since =>
    rw [hrun] at hanswer
    obtain ⟨log, htell⟩ := h.ask_run_of_rejected hc hmake hanswer (by decide) false _
    exact ⟨log, Call.run_bind_of_error htell⟩
  | none =>
    rw [hrun] at hanswer
    obtain ⟨log, htell⟩ := h.tell_run_of_accepted hc hmake hanswer
    exact ⟨log, Call.run_bind_of_ok htell⟩

/-- A stop always succeeds. -/
lemma IsServed.stopRun_run : ∃ c : Command, c.MeasuresWith "STOP".toList [] ∧
    ∃ log, stopRun.run client = (.ok (), client.afterLine c log) := by
  obtain ⟨c, hmake, hc⟩ := Command.exists_measures_word "STOP".toList (by decide)
  exact ⟨c, hc, h.tell_run_of_accepted hc hmake (answerMeasure_stop hc _ _)⟩

/-- A look at the status finds whether there is a run in progress. -/
lemma IsServed.pollStatus_run (now : Instant) : ∃ c : Command, c.MeasuresWith "STATUS".toList [] ∧
    ∃ log,
      let status := if (client.readied c).runningSince.isSome then statusRunning else statusIdle
      (pollStatus now).run client = (.ok (client.tracker.observe status now).1,
        { client.afterLine c log with tracker := (client.tracker.observe status now).2 }) := by
  obtain ⟨c, hmake, hc⟩ := Command.exists_measures_word "STATUS".toList (by decide)
  have hword : ∀ running : Bool, Text.IsOneLine (if running then statusRunning else statusIdle) ∧
      Text.IsAscii (if running then statusRunning else statusIdle) := by decide
  have hanswer := answerMeasure_status hc client.now (client.readied c)
  obtain ⟨log, hexecute⟩ := h.measure_run hc hanswer (isAnswer_status c (hword _).1)
    (Reply.ofAnswer_status hc.verb (hword _).2) true
  have hask : (ask (Command.make .measure "STATUS".toList) true statusOf?).run client =
      (.ok _, client.afterLine c log) := ask_run_of_ok hmake hexecute rfl
  exact ⟨c, hc, log, Call.run_bind_of_ok hask⟩

end Client

end TimingBoard
