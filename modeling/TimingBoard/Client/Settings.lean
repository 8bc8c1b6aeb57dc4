import TimingBoard.Json.Basic
import TimingBoard.Number.Natural
import TimingBoard.Time.Span

/-!
# Connection settings

Where a client finds the server and how patient it is.
-/

namespace TimingBoard

/-- The settings of a client. -/
structure ConnectionSettings where
  host : Text
  port : UInt16
  /-- The time between two looks at the status. -/
  pollInterval : Span
  /-- The wait for each read of a reply. -/
  responseTimeout : Span
  deriving DecidableEq

namespace ConnectionSettings

/-- A server on this machine, at the board's port. -/
def standard : ConnectionSettings :=
  ⟨"127.0.0.1".toList, 2606, .ofSeconds 2, .ofSeconds 5⟩

/-- Host and port, as they are dialled. -/
def address (s : ConnectionSettings) : Text :=
  s.host ++ ':' :: Natural.digits s.port.toNat

end ConnectionSettings

end TimingBoard
