import TimingBoard.Frame.Basic
import TimingBoard.Reply.Basic

/-!
# The simulated board

A board for trying out a client: it keeps settings, agents and stored measurements, and answers
every command line at once. It reads time off a clock that it is handed with each line. Before a
line is answered, a run that has lasted the total time is ended; a total time of zero never ends a
run.

A line is a verb and its argument. The argument of a `SET` or an `MSR` is a key and a value. What
the board does not understand it rejects, and then changes nothing.
-/

namespace TimingBoard

/-- The state of a simulated board. -/
structure Board where
  totalTime : TimeText
  windowTime : TimeText
  deadtime : TimeText
  filePrefix : Text
  autosave : UInt32
  format : UInt32
  monitor : Option Monitor
  agents : List Agent
  /-- The starts of each stored measurement; its place is its number. -/
  measurements : List UInt32
  /-- When the run in progress began. -/
  runningSince : Option Instant
  /-- Never answers. -/
  mute : Bool
  /-- Sends a line that is not a frame before every answer. -/
  noisy : Bool
  /-- The lines that arrived. -/
  received : List Text
  deriving DecidableEq

namespace Board

/-- A board at rest, with the times it is delivered with. -/
def atRest : Board where
  totalTime := ⟨"10".toList, some .seconds⟩
  windowTime := ⟨"20".toList, some .micros⟩
  deadtime := ⟨"10".toList, some .micros⟩
  filePrefix := []
  autosave := 0
  format := 12
  monitor := none
  agents := []
  measurements := []
  runningSince := none
  mute := false
  noisy := false
  received := []

/-! ## Answers -/

/-- The answer that accepts a command. -/
def accepted : List Frame := [⟨.accepted, []⟩]

/-- The answer that rejects a command for a reason. -/
def rejected (reason : String) : List Frame := [⟨.rejected, reason.toList⟩]

/-- The answer to what is not understood. -/
def badParameter : List Frame := rejected "3:BAD_PARAMETER"

/-- The answer with the value of a setting. -/
def valueOf (key value : Text) : List Frame := [⟨.value, key ++ ' ' :: value⟩]

/-- Words with single spaces between them. -/
def spaced (words : List Text) : Text := Text.join [' '] words

/-! ## Runs -/

/-- The starts that a run records: one for every ten milliseconds, and at least one, in 32 bits. -/
def startsOf (elapsed : Span) : UInt32 :=
  UInt32.ofNat (max (elapsed.millis / 10) 1)

/-- Ends the run in progress, if there is one, and stores its measurement. -/
def endRun (now : Instant) (b : Board) : Board :=
  match b.runningSince with
  | none => b
  | some start =>
    { b with
      runningSince := none
      measurements := b.measurements ++ [startsOf (now.since start)] }

/-- Whether the run in progress has lasted the total time. -/
def isOver (now : Instant) (b : Board) : Bool :=
  match b.runningSince with
  | none => false
  | some start => b.totalTime.span.nanos ≠ 0 && b.totalTime.span.nanos ≤ (now.since start).nanos

/-- Ends the run in progress if it has lasted the total time. -/
def expire (now : Instant) (b : Board) : Board :=
  if b.isOver now then b.endRun now else b

/-! ## Changing settings -/

/-- A time that a setting can take: one with a unit. -/
def settableTime? (value : Text) : Option TimeText :=
  match TimeText.read value with
  | .ok t => if t.unit.isSome then some t else none
  | .error _ => none

/-- The board with another timing setting. -/
def setTiming (key : TimingKey) (value : TimeText) (b : Board) : Board :=
  match key with
  | .totalTime => { b with totalTime := value }
  | .windowTime => { b with windowTime := value }
  | .deadtime => { b with deadtime := value }

/-- A monitor from its three words. -/
def monitor? (value : Text) : Option Monitor :=
  match Text.words value with
  | [save, count, filename] => do
    return ⟨← Natural.readUInt32? save, ← Natural.readUInt32? count, filename⟩
  | _ => none

/-- Changes a setting, unless there is nothing it can be changed to. -/
def change (next : Option Board) (b : Board) : List Frame × Board :=
  match next with
  | some b => (accepted, b)
  | none => (badParameter, b)

/-- Answers a `SET`. -/
def answerSet (argument : Text) (b : Board) : List Frame × Board :=
  let (key, value) := Text.cutAtSpace argument
  match TimingKey.ofWord? key with
  | some timing =>
    match settableTime? value with
    | some t => (accepted, b.setTiming timing t)
    | none => (rejected "2:BAD_TIMESTRING", b)
  | none =>
    if key = "PREFIX".toList then
      b.change (if value = [] then none else some { b with filePrefix := value })
    else if key = "FORMAT".toList then
      b.change ((Natural.readUInt32? value).map fun n => { b with format := n })
    else if key = "AUTOSAVE".toList then
      b.change ((Natural.readUInt32? value).map fun n => { b with autosave := n })
    else if key = "MONITOR".toList then
      b.change ((monitor? value).map fun m => { b with monitor := some m })
    else if key = "NOMONITOR".toList then (accepted, { b with monitor := none })
    else (badParameter, b)

/-! ## Reading settings -/

/-- A timing setting of the board. -/
def timing (key : TimingKey) (b : Board) : TimeText :=
  match key with
  | .totalTime => b.totalTime
  | .windowTime => b.windowTime
  | .deadtime => b.deadtime

/-- A monitor as its words; two zeros when it is off. -/
def monitorWords : Option Monitor → Text
  | some m => spaced [Natural.digits m.save.toNat, Natural.digits m.count.toNat, m.filename]
  | none => "0 0".toList

/-- An agent as a frame. -/
def agentFrame (a : Agent) : Frame :=
  ⟨.value, spaced ["AGENT".toList, Natural.digits a.id.toNat, a.mac]⟩

/-- Answers a `GET`. -/
def answerGet (argument : Text) (b : Board) : List Frame :=
  match TimingKey.ofWord? argument with
  | some key => valueOf argument (b.timing key).text
  | none =>
    if argument = "PREFIX".toList then
      valueOf argument (if b.filePrefix = [] then "NONE".toList else b.filePrefix)
    else if argument = "AUTOSAVE".toList then valueOf argument (Natural.digits b.autosave.toNat)
    else if argument = "FORMAT".toList then valueOf argument (Natural.digits b.format.toNat)
    else if argument = "MONITOR".toList then valueOf argument (monitorWords b.monitor)
    else if argument = "AGENTS".toList then
      valueOf argument (Natural.digits b.agents.length) ++ b.agents.map agentFrame
    else badParameter

/-! ## Measurements -/

/-- A place in the list of measurements. -/
def place? (t : Text) (b : Board) : Option Nat :=
  (Natural.read? UInt64.size t).filter (· < b.measurements.length)

/-- A frame with measurement data. -/
def dataFrame (words : List Text) : Frame :=
  ⟨.measurement, spaced words⟩

/-- A stored measurement as a frame, by its place and its starts. -/
def measurementFrame (place : Nat) (starts : UInt32) : Frame :=
  dataFrame ["LST".toList, Natural.digits place, Natural.digits starts.toNat]

/-- The statistics of a measurement: its starts, the window time, and the stops of the channels 1
to 8, which fall off with the channel. -/
def statisticsFrame (starts : UInt32) : Frame :=
  dataFrame (["STAT".toList, Natural.digits starts.toNat, "20".toList] ++
    (List.range 8).map fun channel => Natural.digits (starts.toNat / (channel + 1)))

/-- Answers an `MSR`. -/
def answerMeasure (now : Instant) (argument : Text) (b : Board) : List Frame × Board :=
  let (key, value) := Text.cutAtSpace argument
  if key = "START".toList then
    match b.runningSince with
    | some _ => (rejected "9:START", b)
    | none => (accepted, { b with runningSince := some now })
  else if key = "STOP".toList then (accepted, b.endRun now)
  else if key = "STATUS".toList then
    ([dataFrame ["STATUS".toList, if b.runningSince.isSome then "RUNNING".toList
      else "IDLE".toList]], b)
  else if key = "LST".toList ∨ key = "LIST".toList then
    (dataFrame ["LST".toList, "NUM".toList, Natural.digits b.measurements.length] ::
      b.measurements.mapIdx measurementFrame, b)
  else if key = "STAT".toList then
    match (Natural.read? UInt64.size (value.dropWhile (· == '-'))).bind (b.measurements[·]?) with
    | some starts => ([statisticsFrame starts], b)
    | none => (rejected "8:STAT", b)
  else if key = "SAV".toList ∨ key = "SAVE".toList then
    let (number, file) := Text.cutAtSpace value
    if (b.place? number).isSome ∧ file ≠ [] then (accepted, b) else (rejected "4:SAVE", b)
  else if key = "DEL".toList then
    match b.place? value with
    | some place => (accepted, { b with measurements := b.measurements.eraseIdx place })
    | none => (rejected "5:DELETE", b)
  else if key = "CLR".toList then (accepted, { b with measurements := [] })
  else (badParameter, b)

/-! ## Lines -/

/-- Answers a line by its verb. -/
def answer (now : Instant) (line : Text) (b : Board) : List Frame × Board :=
  let (verb, argument) := Text.cutAtSpace line
  match Verb.ofWord? verb with
  | some .set => b.answerSet argument
  | some .get => (b.answerGet argument, b)
  | some .measure => b.answerMeasure now argument
  | some .extend => (accepted, b)
  | none => (badParameter, b)

/-- Takes a line: notes it, ends a run that is over, and answers. -/
def handle (now : Instant) (line : Text) (b : Board) : List Frame × Board :=
  ({ b with received := b.received ++ [line] }.expire now).answer now line

/-- The end of every line that is sent. -/
def lineEnd : Text := ['\r', '\n']

/-- The line that a noisy board sends before an answer, and an empty one. -/
def noise : Text := "# atmd debug output".toList ++ lineEnd ++ lineEnd

/-- What is sent for an answer. -/
def transcript (noisy : Bool) (frames : List Frame) : Text :=
  (if noisy then noise else []) ++ frames.flatMap fun f => f.text ++ lineEnd

/-- Serves a line as it arrives: white space at its end does not count, an empty line is passed
over, and a mute board keeps its answer to itself. -/
def serve (now : Instant) (arrived : Text) (b : Board) : Text × Board :=
  let line := Text.trimEnd arrived
  if line = [] then ([], b)
  else
    let (frames, b) := b.handle now line
    (if b.mute then [] else transcript b.noisy frames, b)

end Board

end TimingBoard
