import TimingBoard.Proofs.Call.Sequence
import TimingBoard.Proofs.Client.Measuring
import TimingBoard.Proofs.Client.Reachable

/-!
# The tracker and the runs of the board

The board ends a run by itself, whenever a line finds it over, and the tracker of the client learns
of it only from a look at the status.  So the two do not always agree.  But the tracker is never
behind in the other direction: a run in progress was started by this client, since the board was
idle when it connected, and its tracker was set going then.  A look at the status makes them agree.

The invariant is that a board with a run in progress has a client that follows one.  Only an
accepted start begins a run, and it sets the tracker going.  A start that is rejected finds a run in
progress, which is followed already, and leaves both as they are.  All other calls leave the tracker
alone, except for a look at the status, which ends what is followed only if there is no run in
progress.
-/

namespace TimingBoard

variable {α β : Type}

namespace Board

variable {b : Board} {c : Command} {now : Instant}

/-- A board with a run in progress. -/
def IsRunning (b : Board) : Prop :=
  b.runningSince.isSome = true

instance (b : Board) : Decidable b.IsRunning :=
  inferInstanceAs (Decidable (b.runningSince.isSome = true))

/-- A run in progress when a line is answered was in progress before. -/
lemma IsRunning.of_prepared {line : Text} (h : (b.prepared now line).IsRunning) : b.IsRunning := by
  unfold prepared expire endRun at h
  split at h
  · next hover =>
    split at h
    · exact h
    · simp [IsRunning] at h
  · exact h

/-- Only a start begins a run. -/
lemma IsRunning.of_handle (h : (b.handle now c.line).2.IsRunning) (hc : c.startCount = 0) :
    b.IsRunning := by
  refine @of_prepared b now c.line ?_
  rw [handle_line] at h
  split at h
  · refine of_answerSet (P := fun b' => b'.IsRunning → (b.prepared now c.line).IsRunning) id
      (fun setting _ hafter => ?_) h
    cases setting with
    | timing key value => cases key <;> exact hafter
    | _ => exact hafter
  · exact h
  · next hverb =>
    have hmeasures := measures_answerMeasure now c.argument (b.prepared now c.line)
    generalize (b.prepared now c.line).answerMeasure now c.argument = answer at hmeasures h
    cases hmeasures with
    | started hkey => simp [Command.startCount, hverb, hkey] at hc
    | stopped =>
      unfold endRun at h
      split at h
      · exact h
      · simp [IsRunning] at h
    | _ => exact h
  · exact h

end Board

/-! ## Dialogues that leave the tracker alone -/

namespace Dialogue

/-- A dialogue that does not touch the tracker. -/
def LeavesTracker : Dialogue α → Prop
  | stop _ => True
  | ask _ _ next => ∀ reply, LeavesTracker (next reply)
  | track _ _ => False

variable {d : Dialogue α}

lemma LeavesTracker.bind {f : α → Dialogue β} (h : d.LeavesTracker)
    (hf : ∀ a, (f a).LeavesTracker) :
    (d >>= f).LeavesTracker := by
  change (d.andThen f).LeavesTracker
  induction d with
  | stop result =>
    cases result with
    | ok a => exact hf a
    | error e => trivial
  | ask command silent next ih => exact fun reply => ih reply (h reply)
  | track change next => exact h.elim

lemma LeavesTracker.map (h : d.LeavesTracker) (f : α → β) : (f <$> d).LeavesTracker :=
  h.bind fun _ => trivial

lemma leavesTracker_askFor (request : Except Refusal Command) (silent : Bool)
    (kind : Reply → Option α) : (askFor request silent kind).LeavesTracker := by
  cases request with
  | error cause => trivial
  | ok command =>
    intro reply
    dsimp only
    cases kind reply <;> trivial

lemma leavesTracker_withStatistics (list : List Measurement) :
    (withStatistics list).LeavesTracker := by
  induction list with
  | nil => trivial
  | cons m rest ih => exact (leavesTracker_askFor _ _ _).bind fun _ => ih.map _

lemma leavesTracker_makeChanges (changes : List Setting) : (makeChanges changes).LeavesTracker := by
  induction changes with
  | nil => trivial
  | cons change rest ih => exact (leavesTracker_askFor _ _ _).bind fun _ => ih

/-- Commands do not change the tracker. -/
lemma LeavesTracker.tracker_follow [Link L] (h : d.LeavesTracker) (client : Client L) :
    ((d.follow Client.overSession).run client).2.tracker = client.tracker := by
  induction d generalizing client with
  | stop result => simp [follow]
  | ask command silent next ih =>
    have hexecute : ((Client.overSession.execute command silent).run client).2.tracker =
        client.tracker := rfl
    rcases hrun : (Client.overSession.execute command silent).run client with ⟨e | reply, client'⟩
    · rw [hrun] at hexecute
      rw [follow, Call.run_bind_of_error hrun, hexecute]
    · rw [hrun] at hexecute
      rw [follow, Call.run_bind_of_ok hrun, ih reply (h reply), hexecute]
  | track change next => exact h.elim

lemma asksOnly_true (d : Dialogue α) : d.AsksOnly fun _ => True := by
  induction d with
  | stop result => trivial
  | ask command silent next ih => exact ⟨trivial, ih⟩
  | track change next ih => exact ih

/-- A dialogue that starts no run asks only commands that start none. -/
lemma StartsAtMost.asksOnly (h : d.StartsAtMost 0) : d.AsksOnly fun c => c.startCount = 0 := by
  induction d with
  | stop result => trivial
  | ask command silent next ih =>
    refine ⟨Nat.le_zero.1 h.1, fun reply => ih reply ?_⟩
    simpa using h.2 reply
  | track change next ih => exact fun tracker => ih tracker (h tracker)

end Dialogue

namespace ClientCall

/-- A call that neither starts a run nor looks at the status for the tracker. -/
def IsPlain : ClientCall → Prop
  | startRun _ _ => False
  | pollStatus _ => False
  | _ => True

open Dialogue in
lemma IsPlain.leavesTracker {call : ClientCall} (h : call.IsPlain) :
    call.dialogue.LeavesTracker := by
  cases call
  case startRun length now => exact h.elim
  case pollStatus now => exact h.elim
  case table => exact ((leavesTracker_askFor _ _ _).bind leavesTracker_withStatistics).map _
  case write configuration =>
    have hcheck : (ofRequest configuration.check).LeavesTracker := trivial
    exact (hcheck.bind fun _ => leavesTracker_makeChanges configuration.plan).map _
  case read =>
    have hget {key : Text} {γ : Type} {kind : Reply → Option γ} :
        (askFor (Command.make .get key) false kind).LeavesTracker := leavesTracker_askFor _ _ _
    exact (hget.bind fun _ => hget.bind fun _ => hget.bind fun _ => hget.bind fun _ =>
      hget.bind fun _ => hget.map _).map _
  all_goals exact (leavesTracker_askFor _ _ _).map _

end ClientCall

/-! ## The invariant -/

namespace Client

/-- A client that follows the run in progress, if there is one. -/
def FollowsRun (client : Client Connection) : Prop :=
  client.board.IsRunning → client.tracker.phase = .running

variable {client : Client Connection}

/-- A call that does not start a run and leaves the tracker alone keeps what is followed. -/
lemma FollowsRun.perform_of_plain (h : client.FollowsRun)
    (hline : client.session.link.unfinished = []) {call : ClientCall} (hplain : call.IsPlain)
    (htyped : call.IsTyped) :
    (call.perform.run client).2.FollowsRun := by
  have hstarts : call.dialogue.StartsAtMost 0 := by
    have hcount : call.startCount = 0 := by
      cases call <;> first | rfl | exact hplain.elim | exact htyped.elim
    exact hcount ▸ call.startsAtMost_startCount
  -- Kept is that a run in progress was in progress before the call.
  have hkeeps := keeps_perform (P := fun b => b.IsRunning → client.board.IsRunning) hstarts.asksOnly
    fun c hc b now hb hrunning => hb (hrunning.of_handle hc)
  intro hrunning
  have htracker : (call.perform.run client).2.tracker = client.tracker := by
    rw [call.perform_eq_follow]
    exact hplain.leavesTracker.tracker_follow client
  rw [htracker]
  exact h ((hkeeps client ⟨hline, id⟩).2 hrunning)

/-- A start that succeeds is followed, and one that is rejected finds a run that is followed. -/
lemma FollowsRun.startRun (h : client.FollowsRun) (hserved : client.IsServed) (length : TimeText)
    (now : Instant) : ((Client.startRun length now).run client).2.FollowsRun := by
  obtain ⟨c, hc, log, hrun⟩ := hserved.startRun_run length now
  rw [hrun]
  split
  · next hrunning =>
    -- The start is rejected for a run that was in progress before, so that the tracker goes
    -- already.
    have hbefore : client.board.IsRunning := Board.IsRunning.of_prepared hrunning
    exact fun _ => h hbefore
  · exact fun _ => rfl

/-- What a look at the status finds of a client that follows the run in progress. It sees whether
there is a run in progress and makes the tracker agree, and it finds the end of a run if it was
followed before and is none any more. -/
lemma FollowsRun.pollStatus (h : client.FollowsRun) (hserved : client.IsServed) (now : Instant) :
    ∃ (update : StatusUpdate) (after : Client Connection),
      (Client.pollStatus now).run client = (.ok update, after) ∧
      (after.tracker.phase = .running ↔ after.board.IsRunning) ∧
      (update.finished = true ↔ client.tracker.phase = .running ∧ ¬ after.board.IsRunning) := by
  obtain ⟨c, hc, log, hrun⟩ := hserved.pollStatus_run now
  refine ⟨_, _, hrun, ?_⟩
  have hboard : (client.afterLine c log).board = client.readied c := by
    rw [board_afterLine hc, Board.answerMeasure_status hc]
  have hafter (tracker : RunTracker) :
      ({ client.afterLine c log with tracker := tracker } : Client Connection).board.IsRunning ↔
        (client.readied c).runningSince.isSome = true := by
    rw [← hboard]
    rfl
  rw [hafter]
  have hother : statusRunning ≠ statusIdle := by decide
  by_cases hrunning : (client.readied c).runningSince.isSome = true
  · have hphase := h (Board.IsRunning.of_prepared hrunning)
    simp [RunTracker.observe, RunTracker.endedBy, hrunning, hphase, hother]
  · cases hphase : client.tracker.phase <;>
      simp [RunTracker.observe, RunTracker.endedBy, hrunning, hphase, RunTracker.idle]

lemma FollowsRun.perform_pollStatus (h : client.FollowsRun) (hserved : client.IsServed)
    (now : Instant) : ((Client.pollStatus now).run client).2.FollowsRun := by
  obtain ⟨update, after, hrun, hagree, -⟩ := h.pollStatus hserved now
  rw [hrun]
  exact hagree.2

/-- A client in touch with a board that is not mute, which follows the run in progress. -/
structure IsTracking (runs : Nat) (client : Client Connection) : Prop where
  inTouch : client.session.IsInTouch runs
  unmuted : client.board.mute = false
  followsRun : client.FollowsRun

/-- One call of a client that follows the run in progress. -/
lemma IsTracking.perform {runs : Nat} (h : client.IsTracking (runs + 1)) {call : ClientCall}
    (htyped : call.IsTyped) : (call.perform.run client).2.IsTracking runs := by
  have hserved : client.IsServed := ⟨h.inTouch.quiet, h.unmuted⟩
  obtain ⟨hexchange, htouch⟩ := Dialogue.follow_exchanges Session.exchanges_isInTouch h.inTouch
    call.startsAtMost_dialogue
  rw [← hexchange, ← call.perform_eq_follow] at htouch
  refine ⟨htouch, ?_, ?_⟩
  · have hkeeps := keeps_perform (P := fun b => b.mute = false) call.dialogue.asksOnly_true
      fun c _ b now hb => (Board.sameSetup_handle now c b).1.mute.trans hb
    exact (hkeeps client ⟨h.inTouch.quiet.unfinished, h.unmuted⟩).2
  · by_cases hplain : call.IsPlain
    · exact h.followsRun.perform_of_plain h.inTouch.quiet.unfinished hplain htyped
    · cases call
      case startRun length now =>
        rw [ClientCall.perform, Call.run_map]
        exact h.followsRun.startRun hserved length now
      case pollStatus now =>
        rw [ClientCall.perform, Call.run_map]
        exact h.followsRun.perform_pollStatus hserved now
      all_goals exact absurd trivial hplain

end Client

/-! ## All calls -/

/-- Any typed calls of a client that follows the run in progress. -/
lemma ClientCall.isTracking_runAll {calls : List ClientCall} {client : Client Connection}
    (h : client.IsTracking calls.length) (htyped : ∀ call ∈ calls, call.IsTyped) :
    (Call.runAll perform calls client).2.IsTracking 0 := by
  induction calls generalizing client with
  | nil => exact h
  | cons call rest ih =>
    rw [Call.runAll_cons]
    exact ih (h.perform (htyped call (by simp))) fun other hother => htyped other (by simp [hother])

/-- **The tracker and the board agree.** A client begins with nothing on its way, over a board that
is idle, not mute, and has no broken texts. Whatever typed calls it makes, and whatever the clock of
the board shows at their lines, a run in progress is followed by its tracker. A look at the status
then succeeds, and afterwards the tracker is running exactly when there is a run in progress; it
finds the end of a run exactly when the tracker was running and there is no run in progress any
more. -/
theorem ClientCall.tracker_of_runAll (calls : List ClientCall) (client : Client Connection)
    (htyped : ∀ call ∈ calls, call.IsTyped) (hquiet : client.session.IsQuiet)
    (hidle : client.board.runningSince = none) (hmute : client.board.mute = false)
    (hunbroken : client.board.IsUnbroken) (hroom : client.board.HasRoomFor calls.length)
    (now : Instant) :
    let before := (Call.runAll perform calls client).2
    (before.board.IsRunning → before.tracker.phase = .running) ∧
      ∃ (update : StatusUpdate) (after : Client Connection),
        (Client.pollStatus now).run before = (.ok update, after) ∧
        (after.tracker.phase = .running ↔ after.board.IsRunning) ∧
        (update.finished = true ↔ before.tracker.phase = .running ∧ ¬ after.board.IsRunning) := by
  intro before
  have hfollows : client.FollowsRun := fun hrunning => by simp [Board.IsRunning, hidle] at hrunning
  have htracking : before.IsTracking 0 :=
    isTracking_runAll ⟨⟨hquiet, hunbroken, hroom⟩, hmute, hfollows⟩ htyped
  exact ⟨htracking.followsRun,
    htracking.followsRun.pollStatus ⟨htracking.inTouch.quiet, htracking.unmuted⟩ now⟩

/-- A client of a board whose runs last a second. Its clock goes on by six tenths of a second with
each line. -/
def shortRunClient : Client Connection :=
  .ofSession ⟨{ Connection.toBoard { Board.atRest with
      totalTime := ⟨"1".toList, some .seconds⟩ } ⟨0⟩ with
    clock := fun n => ⟨n * 600000000⟩ }, .empty, Session.defaultWait, true, .empty⟩

/-- A second start is rejected while the run is in progress, and a look at the settings ends it. The
tracker learns of it from the status. -/
theorem ClientCall.tracker_of_runAll_shortRun :
    let calls := [startRun ⟨"1".toList, some .seconds⟩ ⟨0⟩, startRun .unchanged ⟨1⟩, autosave]
    let before := (Call.runAll perform calls shortRunClient).2
    (∀ call ∈ calls, call.IsTyped) ∧ shortRunClient.session.IsQuiet ∧
      shortRunClient.board.runningSince = none ∧ shortRunClient.board.mute = false ∧
      shortRunClient.board.IsUnbroken ∧ shortRunClient.board.HasRoomFor calls.length ∧
      before.tracker.phase = .running ∧ ¬ before.board.IsRunning ∧
      ∃ (update : StatusUpdate) (after : Client Connection),
        (Client.pollStatus ⟨2⟩).run before = (.ok update, after) ∧
        (update.finished = true ↔ ¬ after.board.IsRunning) := by
  intro calls before
  have htyped : ∀ call ∈ calls, call.IsTyped := by simp [calls, IsTyped]
  have hquiet : shortRunClient.session.IsQuiet := ⟨rfl, rfl, rfl, rfl⟩
  have hline : shortRunClient.board.IsOneLine :=
    ⟨fun key => by cases key <;> decide, by decide, by decide, by decide⟩
  have hroom : shortRunClient.board.HasRoomFor calls.length := ⟨by decide, by decide⟩
  have hphase : before.tracker.phase = .running := by decide +kernel
  have hidle : ¬ before.board.IsRunning := by decide +kernel
  obtain ⟨-, update, after, hrun, -, hfinished⟩ := tracker_of_runAll calls shortRunClient htyped
    hquiet rfl rfl hline.isUnbroken hroom ⟨2⟩
  refine ⟨htyped, hquiet, rfl, rfl, hline.isUnbroken, hroom, hphase, hidle, update, after, hrun, ?_⟩
  exact hfinished.trans (and_iff_right hphase)

/-- A client of a board with the end of a line in its prefix, and more of a line behind it. -/
def brokenPrefixClient : Client Connection :=
  .ofSession ⟨.toBoard { Board.atRest with filePrefix := "x\r\nMSR STATUS IDLE".toList } ⟨0⟩,
    .empty, Session.defaultWait, true, .empty⟩

/-- Broken texts cannot be allowed. Half of the prefix stays on its way when it was asked for, and
is taken for the reply to the start: it fails, but the board has begun a run, which nobody
follows. -/
theorem ClientCall.not_tracker_of_brokenPrefix :
    let after := (Call.runAll perform [filePrefix, startRun .unchanged ⟨0⟩] brokenPrefixClient).2
    brokenPrefixClient.session.IsQuiet ∧ brokenPrefixClient.board.runningSince = none ∧
      brokenPrefixClient.board.mute = false ∧
      after.board.IsRunning ∧ after.tracker.phase ≠ .running := by
  intro after
  exact ⟨⟨rfl, rfl, rfl, rfl⟩, rfl, rfl, by decide +kernel, by decide +kernel⟩

end TimingBoard
