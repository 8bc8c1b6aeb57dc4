import TimingBoard.Run.Tracker
import TimingBoard.Session.Basic

/-!
# Clients

A client puts questions to the board over a session and takes only replies of the kind it asked for.
It also follows the run it started: an accepted start sets its tracker going, and a look at the
status that finds the board idle ends the run.

The settings of the board that a client can change come each with the command that changes it. A
prefix and the file name of a monitor must be tokens, or the request is refused.
-/

namespace TimingBoard

/-! ## Changes of settings -/

/-- A change of one setting. -/
inductive Setting where
  | timing (key : TimingKey) (value : TimeText)
  | filePrefix (value : Text)
  | autosave (count : UInt32)
  | format (number : UInt32)
  /-- Switches the live monitor on, or off when there is none. -/
  | monitor (value : Option Monitor)
  deriving DecidableEq

namespace Setting

/-- The command for a change. -/
def request : Setting → Except Refusal Command
  | .timing key value => Command.make .set (key.word ++ ' ' :: value.text)
  | .filePrefix value => do
    Token.require .filePrefix value
    Command.make .set ("PREFIX ".toList ++ value)
  | .autosave count => Command.make .set ("AUTOSAVE ".toList ++ Natural.digits count.toNat)
  | .format number => Command.make .set ("FORMAT ".toList ++ Natural.digits number.toNat)
  | .monitor (some m) => do
    Token.require .monitorFile m.filename
    Command.make .set ("MONITOR ".toList ++ Natural.digits m.save.toNat ++
      ' ' :: Natural.digits m.count.toNat ++ ' ' :: m.filename)
  | .monitor none => Command.make .set "NOMONITOR".toList

end Setting

/-! ## The client -/

/-- A client of the board. -/
structure Client (L : Type) where
  session : Session L
  tracker : RunTracker

namespace Client

variable {L : Type}

/-- A client over a session, without a run. -/
def ofSession (session : Session L) : Client L :=
  ⟨session, .idle⟩

/-- A call on the session of a client. -/
def onSession {α : Type} (call : Call (Session L) α) : Call (Client L) α :=
  call.within Client.session fun session client => { client with session := session }

variable [Link L]

/-! ## Asking -/

/-- Executes a request and takes a reply of one kind. -/
def ask {α : Type} (request : Except Refusal Command) (silent : Bool) (kind : Reply → Option α) :
    Call (Client L) α := do
  let command ← Call.ofRequest request
  let reply ← onSession (Session.execute command silent)
  match kind reply with
  | some a => pure a
  | none => Call.fail (.unexpectedReply command reply)

/-- Executes a request that only has to be accepted. -/
def tell (request : Except Refusal Command) : Call (Client L) Unit :=
  ask request false fun
    | .ack => some ()
    | _ => none

/-- Executes a command line as typed. -/
def raw (typed : Text) : Call (Client L) Reply :=
  onSession (Session.executeLine typed false)

/-! ## Settings -/

/-- Changes a setting. -/
def set (setting : Setting) : Call (Client L) Unit :=
  tell setting.request

/-- A timing setting. -/
def timing (key : TimingKey) : Call (Client L) TimeText :=
  ask (Command.make .get key.word) false fun
    | .timing got value => if got = key then some value else none
    | _ => none

/-- The prefix of autosaved files; empty when there is none. -/
def filePrefix : Call (Client L) Text :=
  ask (Command.make .get "PREFIX".toList) false fun
    | .filePrefix value => some value
    | _ => none

/-- The number of starts between autosaves; zero when there are none. -/
def autosave : Call (Client L) UInt32 :=
  ask (Command.make .get "AUTOSAVE".toList) false fun
    | .autosave count => some count
    | _ => none

/-- The live monitor. -/
def monitor : Call (Client L) Monitor :=
  ask (Command.make .get "MONITOR".toList) false fun
    | .monitor value => some value
    | _ => none

/-- The network agents of the server. -/
def agents : Call (Client L) (List Agent) :=
  ask (Command.make .get "AGENTS".toList) false fun
    | .agents list => some list
    | _ => none

/-! ## Runs -/

/-- The status in a reply. -/
def statusOf? : Reply → Option Text
  | .status text => some text
  | _ => none

/-- Starts a measurement, and follows it once the board has accepted it. The length given here
drives the countdown only. -/
def startRun (length : TimeText) (now : Instant) : Call (Client L) Unit := do
  tell (Command.make .measure "START".toList)
  Call.update fun c => { c with tracker := c.tracker.start length now }

/-- Stops the measurement. The tracker learns of it from the next look at the status. -/
def stopRun : Call (Client L) Unit :=
  tell (Command.make .measure "STOP".toList)

/-- The status of the board. -/
def status : Call (Client L) Text :=
  ask (Command.make .measure "STATUS".toList) false statusOf?

/-- Looks at the status without logging it, and takes note of it. -/
def pollStatus (now : Instant) : Call (Client L) StatusUpdate := do
  let status ← ask (Command.make .measure "STATUS".toList) true statusOf?
  fun c =>
    let (update, tracker) := c.tracker.observe status now
    (.ok update, { c with tracker := tracker })

/-! ## Stored measurements -/

/-- The measurements that the server holds. -/
def measurements : Call (Client L) (List Measurement) :=
  ask (Command.make .measure "LST".toList) false fun
    | .measurements list => some list
    | _ => none

/-- The request for the statistics of a measurement: one cumulative line, or a line per start. -/
def statisticsRequest (id : UInt32) (cumulative : Bool) : Except Refusal Command :=
  Command.make .measure
    ("STAT ".toList ++ (if cumulative then ['-'] else []) ++ Natural.digits id.toNat)

/-- The statistics of a measurement. -/
def statistics (id : UInt32) (cumulative : Bool) : Call (Client L) (List Statistics) :=
  ask (statisticsRequest id cumulative) false fun
    | .statistics line => some [line]
    | .statisticsList lines => some lines
    | _ => none

/-- Each measurement of a list with the first line of its cumulative statistics. -/
def withStatistics : List Measurement → Call (Client L) (List (Measurement × Statistics))
  | [] => pure []
  | m :: rest => do
    let lines ← statistics m.id true
    let rows ← withStatistics rest
    return (m, lines.headD .zero) :: rows

/-- All measurements with their cumulative statistics. -/
def table : Call (Client L) (List (Measurement × Statistics)) := do
  withStatistics (← measurements)

/-- The request to save a measurement to a file on the server. -/
def saveRequest (id : UInt32) (file : Text) : Except Refusal Command := do
  Token.require .targetFile file
  Command.make .measure ("SAV ".toList ++ Natural.digits id.toNat ++ ' ' :: file)

/-- Saves a measurement to a file on the server. -/
def save (id : UInt32) (file : Text) : Call (Client L) Unit :=
  tell (saveRequest id file)

/-- Deletes a measurement. -/
def delete (id : UInt32) : Call (Client L) Unit :=
  tell (Command.make .measure ("DEL ".toList ++ Natural.digits id.toNat))

/-- Deletes all measurements. -/
def clear : Call (Client L) Unit :=
  tell (Command.make .measure "CLR".toList)

end Client

end TimingBoard
