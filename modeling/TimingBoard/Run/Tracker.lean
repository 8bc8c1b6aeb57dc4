import TimingBoard.Run.Countdown
import TimingBoard.Time.TimeText

/-!
# Following a run

The server only tells whether the board is idle or running. How much of a run is left is worked out
here, from the moment the start was accepted and the length of the run:

* an accepted start makes the phase running and notes the moment and the length;
* a running phase becomes idle when the status is exactly `IDLE`, and both notes are dropped;
* any other status leaves the phase as it is.
-/

namespace TimingBoard

/-- The client's view of the board. -/
inductive Phase where
  | idle
  | running
  deriving DecidableEq

/-- The status of a board without a run. -/
def statusIdle : Text := "IDLE".toList

/-- The status of a board with a run in progress. -/
def statusRunning : Text := "RUNNING".toList

/-- What is known of the current run. -/
structure RunTracker where
  phase : Phase
  /-- The length of the run in seconds; zero for a run without countdown. -/
  duration : Binary64
  startedAt : Option Instant
  deriving DecidableEq

/-- What one look at the status brought. -/
structure StatusUpdate where
  status : Text
  /-- The phase after the look. -/
  phase : Phase
  countdown : Countdown
  /-- Whether this look found the end of a run. -/
  finished : Bool
  deriving DecidableEq

namespace RunTracker

/-- No run. -/
def idle : RunTracker := ⟨.idle, .zero, none⟩

/-- Notes that a run of a given length was started. -/
def start (_ : RunTracker) (length : TimeText) (now : Instant) : RunTracker :=
  ⟨.running, length.countdownSeconds, some now⟩

/-- Notes that a run was started whose length is given as text. A text that is no time gives no
countdown. -/
def startText (t : RunTracker) (length : Text) (now : Instant) : RunTracker :=
  match TimeText.read length with
  | .ok time => t.start time now
  | .error _ => t.start .unchanged now

/-- What is left of the run. A run has no countdown before it was started. -/
def countdown (t : RunTracker) (now : Instant) : Countdown :=
  match t.startedAt with
  | none => .inactive
  | some start => .ofSeconds (t.duration.sub (now.since start).toBinary64)

/-- Whether a status ends the run. -/
def endedBy (t : RunTracker) (status : Text) : Bool :=
  status = statusIdle && t.phase = .running

/-- Takes note of a status. -/
def observe (t : RunTracker) (status : Text) (now : Instant) : StatusUpdate × RunTracker :=
  let finished := t.endedBy status
  let after := if finished then idle else t
  (⟨status, after.phase, after.countdown now, finished⟩, after)

end RunTracker

end TimingBoard
