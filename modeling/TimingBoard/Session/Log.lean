import TimingBoard.Frame.Basic
import TimingBoard.Request

/-!
# The command log

A session keeps a log of the commands it sent and the first frame of each reply. The log holds the
last thousand entries: a full log drops its oldest entry for a new one.
-/

namespace TimingBoard

/-- An entry of the log. -/
inductive LogEntry where
  | sent (command : Command)
  | received (frame : Frame)
  deriving DecidableEq

/-- An entry as a line. -/
def LogEntry.text : LogEntry → Text
  | .sent command => "S: ".toList ++ command.line
  | .received frame => "R: ".toList ++ frame.text

/-- The log of a session, the oldest entry first. -/
structure CommandLog where
  entries : List LogEntry
  deriving DecidableEq

namespace CommandLog

/-- The number of entries that are kept. -/
def capacity : Nat := 1000

/-- A log without entries. -/
def empty : CommandLog := ⟨[]⟩

/-- The number of entries. -/
def size (log : CommandLog) : Nat :=
  log.entries.length

/-- The log with a new entry. -/
def push (log : CommandLog) (entry : LogEntry) : CommandLog :=
  if log.size = capacity then ⟨log.entries.drop 1 ++ [entry]⟩ else ⟨log.entries ++ [entry]⟩

end CommandLog

end TimingBoard
