import TimingBoard.Client.Basic

/-!
# Configurations

The settings of one acquisition, moved to and from the board as a whole. Writing a configuration is
a plan of single changes, made in order until one fails; those before it stay in effect. Nothing is
sent for a configuration that the board could not take.

A timing setting `0u` is left alone. The prefix matters only while autosave is on, and the monitor
is on only if its three parts are all given. The format can be written but not read.
-/

namespace TimingBoard

/-- The settings of one acquisition. -/
structure Configuration where
  totalTime : TimeText
  windowTime : TimeText
  deadtime : TimeText
  filePrefix : Text
  autosave : UInt32
  monitor : Option Monitor
  format : UInt32
  deriving DecidableEq

/-- Whether all parts of a monitor are given. -/
def Monitor.isComplete (m : Monitor) : Bool :=
  m.save != 0 && m.count != 0 && m.filename != []

namespace Configuration

/-- The format that is written unless another one is given. -/
def defaultFormat : UInt32 := 12

/-- The configuration that leaves the timing alone, with autosave and monitor off. -/
def unchanged : Configuration :=
  ⟨.unchanged, .unchanged, .unchanged, [], 0, none, defaultFormat⟩

/-- The monitor that is switched on. -/
def activeMonitor? (c : Configuration) : Option Monitor :=
  c.monitor.filter Monitor.isComplete

/-- Refuses a configuration that could not be written. -/
def check (c : Configuration) : Except Refusal Unit := do
  if c.autosave ≠ 0 then
    if c.filePrefix = [] then throw .autosaveWithoutPrefix
    Token.require .filePrefix c.filePrefix
  match c.activeMonitor? with
  | some m => Token.require .monitorFile m.filename
  | none => pure ()

/-- The change of a timing setting, unless it is to be left alone. -/
def timingChange (key : TimingKey) (value : TimeText) : List Setting :=
  if value.isUnchanged then [] else [.timing key value]

/-- The changes that write a configuration, in order. -/
def plan (c : Configuration) : List Setting :=
  timingChange .totalTime c.totalTime ++ timingChange .windowTime c.windowTime ++
    timingChange .deadtime c.deadtime ++
    (if c.autosave = 0 then [] else [.filePrefix c.filePrefix]) ++
    [.autosave c.autosave, .format c.format, .monitor c.activeMonitor?]

variable {L : Type} [Link L]

/-- Makes changes in order until one fails. -/
def makeChanges : List Setting → Call (Client L) Unit
  | [] => pure ()
  | change :: rest => do
    Client.set change
    makeChanges rest

/-- Writes a configuration to the board. -/
def write (c : Configuration) : Call (Client L) Unit := do
  Call.ofRequest c.check
  makeChanges c.plan

/-- Reads the configuration of the board. -/
def read : Call (Client L) Configuration := do
  let totalTime ← Client.timing .totalTime
  let windowTime ← Client.timing .windowTime
  let deadtime ← Client.timing .deadtime
  let filePrefix ← Client.filePrefix
  let autosave ← Client.autosave
  let monitor ← Client.monitor
  return ⟨totalTime, windowTime, deadtime, filePrefix, autosave,
    (some monitor).filter Monitor.isComplete, defaultFormat⟩

end Configuration

end TimingBoard
