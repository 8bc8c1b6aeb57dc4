import TimingBoard.Proofs.Call.Sequence
import TimingBoard.Proofs.Client.Measuring
import TimingBoard.Proofs.Client.Shelf

/-!
# Measurements through the client

A client that only measures sees a list: what becomes of its calls is what becomes of them on the
shelf of its board.  In between every number is written out as text and read back, a list comes line
by line, and the lines that could not be read would stand there as placeholders.

One call is one step of the shelf, for each kind of call.  A table takes one step for the list and
one for each measurement, and may end a run in between; since that puts a measurement last, the
places in the list stay what they are.
-/

namespace TimingBoard

open Board

namespace Client

/-- The shelf of the board of a client. -/
def shelf (client : Client Connection) : Shelf :=
  .ofBoard client.session.link.clock client.board

/-- A client with nothing on its way, over a board that is not mute and has a shelf. -/
structure Holds (s : Shelf) (client : Client Connection) : Prop where
  served : client.IsServed
  shelf : client.shelf = s

variable {client : Client Connection} {s : Shelf} {c : Command} {key value : Text} {α : Type}

namespace Holds

section Line

variable (h : client.Holds s)

include h

lemma now : client.now = s.clock 0 :=
  congrArg (fun shelf : Shelf => shelf.clock 0) h.shelf

/-- The board answers a command after a tick of its shelf. -/
lemma ofBoard_readied (c : Command) :
    Shelf.ofBoard (fun n => s.clock (n + 1)) (client.readied c) = s.tick := by
  rw [← h.shelf]
  exact Shelf.ofBoard_prepared _ _ _

lemma measurements_readied (c : Command) : (client.readied c).measurements = s.tick.starts :=
  congrArg Shelf.starts (h.ofBoard_readied c)

lemma runningSince_readied (c : Command) : (client.readied c).runningSince = s.tick.runningSince :=
  congrArg Shelf.runningSince (h.ofBoard_readied c)

lemma afterLine (hc : c.MeasuresWith key value) {frames : List Frame} {board : Board}
    (hanswer : (client.readied c).answerMeasure client.now c.argument = (frames, board))
    (log : CommandLog) :
    (client.afterLine c log).Holds (.ofBoard (fun n => s.clock (n + 1)) board) := by
  have hboard : (client.afterLine c log).board = board :=
    (board_afterLine hc log).trans (congrArg Prod.snd hanswer)
  refine ⟨h.served.afterLine c log, ?_⟩
  rw [← h.shelf, Client.shelf, hboard]
  rfl

/-- A command that leaves the board as it is takes a tick. -/
lemma afterLine_of_same (hc : c.MeasuresWith key value) {frames : List Frame}
    (hanswer : (client.readied c).answerMeasure client.now c.argument = (frames, client.readied c))
    (log : CommandLog) : (client.afterLine c log).Holds s.tick :=
  h.ofBoard_readied c ▸ h.afterLine hc hanswer log

end Line

end Holds

end Client

open Client

/-- A call of a client becomes what it becomes on a shelf, and leaves the client with the shelf. -/
structure StoreCall.Follows (call : StoreCall) (s : Shelf) (client : Client Connection) : Prop where
  outcome : (s.act call).1.Matches (call.perform.run client).1
  holds : (call.perform.run client).2.Holds (s.act call).2

variable {client : Client Connection} {s : Shelf} {c : Command} {key value : Text}

/-- A call with an answer that is known follows the shelf. -/
lemma StoreCall.follows_of_run {α : Type} {call : StoreCall} {result : Except Error α}
    {after : Client Connection} {ask : Call (Client Connection) α} {f : α → Answer}
    (hcall : call.perform = f <$> ask) (hrun : ask.run client = (result, after))
    (hmatches : (s.act call).1.Matches (result.map f)) (hholds : after.Holds (s.act call).2) :
    call.Follows s client := by
  constructor <;> rw [hcall, Call.run_map, hrun]
  · exact hmatches
  · exact hholds

/-! ## Calls of one line -/

namespace Client.Holds

variable (h : client.Holds s)

include h

lemma follows_startRun (length : TimeText) (now : Instant) :
    (StoreCall.startRun length now).Follows s client := by
  obtain ⟨c, hc, log, hrun⟩ := h.served.startRun_run length now
  have hanswer := answerMeasure_start hc client.now (client.readied c)
  cases hsince : s.tick.runningSince with
  | some since =>
    rw [h.runningSince_readied, hsince] at hanswer hrun
    refine StoreCall.follows_of_run rfl hrun ?_ ?_ <;> simp only [Shelf.act, hsince]
    · rfl
    · exact h.afterLine_of_same hc hanswer log
  | none =>
    rw [h.runningSince_readied, hsince] at hanswer hrun
    have hafter := h.afterLine hc hanswer log
    refine StoreCall.follows_of_run rfl hrun ?_ ?_ <;> simp only [Shelf.act, hsince]
    · rfl
    · refine ⟨⟨hafter.served.quiet, hafter.served.unmuted⟩, hafter.shelf.trans ?_⟩
      rw [← h.ofBoard_readied c, ← h.now]
      rfl

lemma follows_stopRun : StoreCall.stopRun.Follows s client := by
  obtain ⟨c, hc, log, hrun⟩ := h.served.stopRun_run
  have hafter := h.afterLine hc (answerMeasure_stop hc _ _) log
  rw [Shelf.ofBoard_endRun, h.ofBoard_readied, h.now] at hafter
  exact StoreCall.follows_of_run rfl hrun rfl hafter

/-- A request that is accepted, or rejected, as a test has it. -/
lemma follows_tell {call : StoreCall} {request : Except Refusal Command} {reason : String}
    {p : Prop} [Decidable p] {board : Board}
    (hcall : call.perform (L := Connection) = (fun _ => .done) <$> tell request)
    (hmake : request = .ok c) (hc : c.MeasuresWith key value) (hreason : reason ∈ measureReasons)
    (hanswer : (client.readied c).answerMeasure client.now c.argument =
      if p then (accepted, board) else (rejected reason, client.readied c))
    (hact : s.act call = if p then (.answered .done, .ofBoard (fun n => s.clock (n + 1)) board)
      else (.rejected reason, s.tick)) : call.Follows s client := by
  by_cases hp : p
  · rw [if_pos hp] at hanswer hact
    obtain ⟨log, hrun⟩ := h.served.tell_run_of_accepted hc hmake hanswer
    refine StoreCall.follows_of_run hcall hrun ?_ ?_ <;> rw [hact]
    · rfl
    · exact h.afterLine hc hanswer log
  · rw [if_neg hp] at hanswer hact
    obtain ⟨log, hrun⟩ := h.served.ask_run_of_rejected hc hmake hanswer hreason false _
    refine StoreCall.follows_of_run hcall hrun ?_ ?_ <;> rw [hact]
    · rfl
    · exact h.afterLine_of_same hc hanswer log

lemma follows_save (id : UInt32) (file : Text) : (StoreCall.save id file).Follows s client := by
  cases hfile : Token.isToken file with
  | true =>
    obtain ⟨c, hmake, hc⟩ := exists_saveRequest id hfile
    have hanswer :=
      answerMeasure_save (Token.isToken_iff.1 hfile).1 hc client.now (client.readied c)
    refine h.follows_tell rfl hmake hc (by decide) hanswer ?_
    simp [Shelf.act, hfile, h.measurements_readied, h.ofBoard_readied]
  | false =>
    obtain ⟨cause, hrefused⟩ := saveRequest_of_not_token id hfile
    have hact : s.act (.save id file) = (.refused, s) := by simp [Shelf.act, hfile]
    refine StoreCall.follows_of_run rfl (ask_run_of_refused hrefused) ?_ ?_ <;> rw [hact]
    · trivial
    · exact h

lemma follows_delete (id : UInt32) : (StoreCall.delete id).Follows s client := by
  obtain ⟨c, hmake, hc⟩ := exists_deleteRequest id
  refine h.follows_tell rfl hmake hc (by decide) (answerMeasure_delete hc _ _) ?_
  rw [Shelf.act, h.measurements_readied, ← h.ofBoard_readied c]
  rfl

lemma follows_clear : StoreCall.clear.Follows s client := by
  obtain ⟨c, hmake, hc⟩ := Command.exists_measures_word "CLR".toList (by decide)
  have hanswer := answerMeasure_clear hc client.now (client.readied c)
  obtain ⟨log, hrun⟩ := h.served.tell_run_of_accepted hc hmake hanswer
  refine StoreCall.follows_of_run rfl hrun rfl ?_
  have hafter := h.afterLine hc hanswer log
  rw [Shelf.act, ← h.ofBoard_readied c]
  exact hafter

/-! ## Data -/

/-- A request for data takes what the board answers, and a tick. -/
lemma ask_run {α : Type} {request : Except Refusal Command} {kind : Reply → Option α}
    {frames : List Frame} {reply : Reply} {a : α} (hmake : request = .ok c)
    (hc : c.MeasuresWith key value)
    (hanswer : (client.readied c).answerMeasure client.now c.argument = (frames, client.readied c))
    (hcomplete : IsAnswer c frames)
    (hreply : Reply.ofAnswer c (frames.map Frame.received) = .ok reply)
    (hkind : kind reply = some a) (silent : Bool) : ∃ after,
      (ask request silent kind).run client = (.ok a, after) ∧ after.Holds s.tick := by
  obtain ⟨log, hexecute⟩ := h.served.measure_run hc hanswer hcomplete hreply silent
  exact ⟨_, ask_run_of_ok hmake hexecute hkind, h.afterLine_of_same hc hanswer log⟩

/-- The list is read as it stands on the shelf. -/
lemma measurements_run (hfits : s.tick.starts.length ≤ UInt32.size) : ∃ after,
    measurements.run client = (.ok (Measurement.listOf s.tick.starts), after) ∧
      after.Holds s.tick := by
  obtain ⟨c, hmake, hc⟩ := Command.exists_measures_word "LST".toList (by decide)
  have hanswer := answerMeasure_list hc client.now (client.readied c)
  have hlength : (client.readied c).measurements.length < UInt64.size := by
    rw [h.measurements_readied]
    exact Nat.lt_of_le_of_lt hfits (by decide)
  have hcomplete := isAnswer_measurements hlength hc.verb
  rw [h.measurements_readied] at hanswer hcomplete
  have hreply : Reply.ofAnswer c ((dataFrame ["LST".toList, "NUM".toList,
      Natural.digits s.tick.starts.length] :: s.tick.starts.mapIdx measurementFrame).map
        Frame.received) = .ok (.measurements (Measurement.listOf s.tick.starts)) := by
    have hframes : (s.tick.starts.mapIdx measurementFrame).length < UInt64.size := by
      simpa using Nat.lt_of_le_of_lt hfits (by decide)
    have hlist := Reply.ofAnswer_list hc.verb hframes
    rw [List.length_mapIdx, Reply.map_readMeasurement_mapIdx hfits] at hlist
    exact hlist
  exact h.ask_run hmake hc hanswer hcomplete hreply (by rfl) false

/-- The statistics of a measurement on the shelf. -/
lemma statistics_run {id : UInt32} {n : UInt32} (hplace : s.tick.starts[id.toNat]? = some n)
    (cumulative : Bool) : ∃ after,
      (statistics id cumulative).run client = (.ok [.ofStarts n], after) ∧ after.Holds s.tick := by
  obtain ⟨c, hmake, hc⟩ := exists_statisticsRequest id cumulative
  have hanswer := answerMeasure_statistics hc client.now (client.readied c)
  rw [h.measurements_readied, hplace] at hanswer
  exact h.ask_run hmake hc hanswer (isAnswer_statistics c n) (Reply.ofAnswer_statistics hc.verb n)
    (by rfl) false

lemma follows_measurements (hfits : s.tick.starts.length ≤ UInt32.size) :
    StoreCall.measurements.Follows s client := by
  obtain ⟨after, hrun, hafter⟩ := h.measurements_run hfits
  exact StoreCall.follows_of_run rfl hrun rfl hafter

lemma follows_statistics (id : UInt32) (cumulative : Bool) :
    (StoreCall.statistics id cumulative).Follows s client := by
  cases hplace : s.tick.starts[id.toNat]? with
  | some n =>
    obtain ⟨after, hrun, hafter⟩ := h.statistics_run hplace cumulative
    refine StoreCall.follows_of_run rfl hrun ?_ ?_ <;> simp only [Shelf.act, hplace]
    · rfl
    · exact hafter
  | none =>
    obtain ⟨c, hmake, hc⟩ := exists_statisticsRequest id cumulative
    have hanswer := answerMeasure_statistics hc client.now (client.readied c)
    rw [h.measurements_readied, hplace] at hanswer
    obtain ⟨log, hrun⟩ := h.served.ask_run_of_rejected hc hmake hanswer (by decide) false _
    refine StoreCall.follows_of_run rfl hrun ?_ ?_ <;> simp only [Shelf.act, hplace]
    · rfl
    · exact h.afterLine_of_same hc hanswer log

/-- The statistics of measurements that stay where they are, one line for each. -/
lemma withStatistics_run {list : List Measurement}
    (hlist : ∀ m ∈ list, s.starts[m.id.toNat]? = some m.starts) : ∃ after,
      (withStatistics list).run client = (.ok (list.map fun m => (m, .ofStarts m.starts)), after) ∧
        after.Holds (Shelf.tick^[list.length] s) := by
  -- A tick may put one more measurement last, but it moves none: what is left of the list is found
  -- where it was.
  induction list generalizing client s with
  | nil => exact ⟨client, rfl, h⟩
  | cons m rest ih =>
    obtain ⟨between, hfirst, hbetween⟩ := h.statistics_run
      (s.getElem?_tick (hlist m (by simp))) true
    obtain ⟨after, hrest, hafter⟩ := ih hbetween fun other hother =>
      s.getElem?_tick (hlist other (by simp [hother]))
    refine ⟨after, ?_, hafter⟩
    rw [withStatistics, Call.run_bind_of_ok hfirst, Call.run_bind_of_ok hrest]
    rfl

lemma follows_table (hfits : s.tick.starts.length ≤ UInt32.size) :
    StoreCall.table.Follows s client := by
  obtain ⟨between, hlist, hbetween⟩ := h.measurements_run hfits
  obtain ⟨after, hrows, hafter⟩ := hbetween.withStatistics_run
    (Measurement.getElem?_of_mem_listOf hfits)
  have hrun : table.run client = (.ok (Shelf.rows s.tick.starts), after) := by
    rw [table, Call.run_bind_of_ok hlist]
    exact hrows
  rw [Measurement.length_listOf] at hafter
  exact StoreCall.follows_of_run rfl hrun rfl hafter

/-- One call is one step of the shelf. -/
lemma follows (call : StoreCall) (hfits : call.Lists → s.tick.starts.length ≤ UInt32.size) :
    call.Follows s client := by
  cases call with
  | startRun length now => exact h.follows_startRun length now
  | stopRun => exact h.follows_stopRun
  | measurements => exact h.follows_measurements (hfits trivial)
  | statistics id cumulative => exact h.follows_statistics id cumulative
  | table => exact h.follows_table (hfits trivial)
  | save id file => exact h.follows_save id file
  | delete id => exact h.follows_delete id
  | clear => exact h.follows_clear

end Client.Holds

/-! ## All calls -/

/-- Calls one after the other are steps of the shelf one after the other. -/
lemma Client.Holds.follows_all {calls : List StoreCall} (h : client.Holds s)
    (hfits : s.Fits calls) :
    List.Forall₂ Outcome.Matches (s.runAll calls).1
        (Call.runAll StoreCall.perform calls client).1 ∧
      (Call.runAll StoreCall.perform calls client).2.Holds (s.runAll calls).2 := by
  induction calls generalizing client s with
  | nil => exact ⟨.nil, h⟩
  | cons call rest ih =>
    have hfirst := h.follows call hfits.1
    obtain ⟨houtcomes, hholds⟩ := ih hfirst.holds hfits.2
    rw [Call.runAll_cons]
    exact ⟨.cons hfirst.outcome houtcomes, hholds⟩

/-- **Measurements through the client are a list.** The client begins with nothing on its way, over
a board that is not mute. Whatever calls about runs and measurements it makes, and whatever the
clock of the board shows at their lines, what becomes of each call is what becomes of it on a list
of numbers: the list is given with the places in it, statistics are found and measurements saved and
deleted by their places and rejected for any other, and the table has the measurements that were
listed. The places in the list must fit into 32 bits whenever it is asked for. -/
theorem StoreCall.outcomes_of_runAll (calls : List StoreCall) (client : Client Connection)
    (hserved : client.IsServed) (hfits : client.shelf.Fits calls) :
    List.Forall₂ Outcome.Matches (client.shelf.runAll calls).1
        (Call.runAll StoreCall.perform calls client).1 ∧
      (Call.runAll StoreCall.perform calls client).2.shelf = (client.shelf.runAll calls).2 := by
  have hholds : client.Holds client.shelf := ⟨hserved, rfl⟩
  obtain ⟨houtcomes, hafter⟩ := hholds.follows_all hfits
  exact ⟨houtcomes, hafter.shelf⟩

/-- A client of a board with two measurements, whose runs last a second. Its clock goes on by four
tenths of a second with each line. -/
def measuringClient : Client Connection :=
  .ofSession ⟨{ Connection.toBoard { Board.atRest with
      totalTime := ⟨"1".toList, some .seconds⟩, measurements := [7, 80] } ⟨0⟩ with
    clock := fun n => ⟨n * 400000000⟩ }, .empty, Session.defaultWait, true, .empty⟩

/-- A run that ends while a table is put together is no row of it, but has a place in the list from
then on. -/
theorem StoreCall.outcomes_of_runAll_endingInTable :
    let calls := [startRun .unchanged ⟨0⟩, statistics 0 true, table, statistics 2 false,
      save 1 "a".toList, save 3 "a".toList, save 0 "a b".toList, delete 0, delete 2, measurements]
    measuringClient.IsServed ∧ measuringClient.shelf.Fits calls ∧
      List.Forall₂ Outcome.Matches (measuringClient.shelf.runAll calls).1
        (Call.runAll StoreCall.perform calls measuringClient).1 ∧
      (Call.runAll StoreCall.perform calls measuringClient).2.board.measurements = [80, 120] := by
  intro calls
  have hserved : measuringClient.IsServed := ⟨⟨rfl, rfl, rfl, rfl⟩, rfl⟩
  have hfits : measuringClient.shelf.Fits calls := Shelf.fits_of_size _ (by decide)
  have hstarts : (measuringClient.shelf.runAll calls).2.starts = [80, 120] := by decide +kernel
  obtain ⟨houtcomes, hshelf⟩ := outcomes_of_runAll calls measuringClient hserved hfits
  exact ⟨hserved, hfits, houtcomes, (congrArg Shelf.starts hshelf).trans hstarts⟩

end TimingBoard
