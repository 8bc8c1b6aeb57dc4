import TimingBoard.Frame.Buffer
import TimingBoard.Link.Basic
import TimingBoard.Reply.Decode
import TimingBoard.Session.Log

/-!
# Sessions

A session runs over one link. It sends a command, reads until a line is a frame, and understands the
reply by the verb of the command, asking for further frames where the reply is a list. Replies carry
no identification: the next frame that arrives is taken for the answer.

Each read waits at most the session's wait. When it runs out the call fails, but the connection and
what has arrived so far stay. The connection is lost when a write fails, when the peer closes the
link, or when a read fails in any other way than by waiting too long; from then on every call fails
without touching the link.
-/

namespace TimingBoard

/-- A session over a link. -/
structure Session (L : Type) where
  link : L
  buffer : ReceiveBuffer
  wait : Span
  connected : Bool
  log : CommandLog

namespace Session

variable {L : Type} [Link L]

/-- The wait for each read unless another one is set. -/
def defaultWait : Span := .ofSeconds 5

/-- The most bytes that one read asks for. -/
def readSize : Nat := 4096

/-- Begins a session over a link. -/
def start (link : L) : Except Error (Session L) :=
  match Link.setWait defaultWait link with
  | (.ok (), link) => .ok ⟨link, .empty, defaultWait, true, .empty⟩
  | (.error fault, _) => .error (.network fault)

/-- Sets the wait for each read. -/
def setWait (wait : Span) : Call (Session L) Unit := fun s =>
  match Link.setWait wait s.link with
  | (.ok (), link) => (.ok (), { s with link := link, wait := wait })
  | (.error fault, link) => (.error (.network fault), { s with link := link })

/-- Fails once the connection is lost. -/
def ensureConnected : Call (Session L) Unit := fun s =>
  if s.connected then (.ok (), s) else (.error .notConnected, s)

/-- The session after the link has failed. -/
def lose {α : Type} (s : Session L) (fault : LinkFault) : Except Error α × Session L :=
  (.error (.network fault), { s with connected := false })

/-- Writes bytes and sends them on. -/
def transmit (bytes : Bytes) : Call (Session L) Unit := fun s =>
  match Link.write bytes s.link with
  | (.error fault, link) => { s with link := link }.lose fault
  | (.ok (), link) =>
    match Link.flush link with
    | (.error fault, link) => { s with link := link }.lose fault
    | (.ok (), link) => (.ok (), { s with link := link })

/-- Sends a command without waiting for its reply. -/
def send (command : Command) : Call (Session L) Unit := do
  ensureConnected
  transmit command.encode

/-- Reads until a line is a frame. -/
def awaitFrame (s : Session L) : Except Error Frame × Session L :=
  match s.buffer.nextFrame with
  | (some frame, buffer) => (.ok frame, { s with buffer := buffer })
  | (none, buffer) =>
    match _h : Link.read readSize s.link with
    | (.ok chunk, link) =>
      if _hchunk : chunk = [] then
        { s with link := link, buffer := buffer }.lose .closedByPeer
      else awaitFrame { s with link := link, buffer := buffer.receive chunk }
    | (.error fault, link) =>
      if _hkind : fault.kind = .interrupted then
        awaitFrame { s with link := link, buffer := buffer }
      else if fault.kind = .timedOut ∨ fault.kind = .wouldBlock then
        (.error .timeout, { s with link := link, buffer := buffer })
      else { s with link := link, buffer := buffer }.lose fault
termination_by Link.pending s.link
decreasing_by
  · exact Link.pending_lt_of_bytes (by decide) _h _hchunk
  · exact Link.pending_lt_of_interrupted _h _hkind

/-- The next frame. -/
def readFrame : Call (Session L) Frame := do
  ensureConnected
  awaitFrame

/-- Adds an entry to the log, unless the call is a silent one. -/
def note (silent : Bool) (entry : LogEntry) : Call (Session L) Unit :=
  if silent then pure () else Call.update fun s => { s with log := s.log.push entry }

/-- Sends a command and understands its reply. A silent call leaves the log alone. -/
def execute (command : Command) (silent : Bool) : Call (Session L) Reply := do
  send command
  note silent (.sent command)
  let frame ← readFrame
  note silent (.received frame)
  Reply.decode readFrame command frame

/-- Reads a command line as typed and executes it. -/
def executeLine (typed : Text) (silent : Bool) : Call (Session L) Reply := do
  execute (← Call.ofRequest (Command.read typed)) silent

/-- Takes all entries out of the log. -/
def drainLog : Call (Session L) (List LogEntry) := fun s =>
  (.ok s.log.entries, { s with log := .empty })

end Session

end TimingBoard
