import TimingBoard.Json.Codec
import TimingBoard.Tool.Invocation
import TimingBoard.Tool.Report

/-!
# Settings and connections of the tool

The tool takes its settings from a file if one is named, and from the options given over those. A
connection is made with the address in the settings, and then waits for replies as long as they
say.

Files, the network, the keyboard and the clock belong to the host that the tool runs on. The host is
a record of what can be asked of it, in whatever monad it lives.
-/

namespace TimingBoard.Tool

/-- The host that the tool runs on. -/
structure Host (m : Type → Type) (L : Type) where
  /-- The contents of a file; nothing if it cannot be read. -/
  readFile : Text → m (Option Bytes)
  /-- Writes a file, and tells whether that was possible. -/
  writeFile : Text → Bytes → m Bool
  /-- Prints before anything else is done. -/
  print : Text → m Unit
  /-- Dials an address. -/
  dial : Text → m (Except DialFault L)
  /-- Gives a link back. -/
  hangUp : L → m Unit
  /-- What is typed. -/
  input : m Text
  /-- When runs start. -/
  now : Instant
  /-- What happens while a watch goes on. -/
  happenings : List (Poller.Happening L)

/-! ## Settings -/

/-- The wait that a number of seconds asks for. -/
def timeoutOf (seconds : Binary64) : Except Failure Span :=
  if Binary64.zero.lt seconds then
    (Span.ofBinary64 seconds).mapError (.timeoutOutOfRange seconds)
  else .error .timeoutNotPositive

/-- The settings of a file. -/
def settingsOf (path : Text) (contents : Option Bytes) : Except Failure ConnectionSettings :=
  match contents.bind ConnectionSettings.ofFile? with
  | some settings => .ok settings
  | none => .error (.settingsFile path)

/-- The settings with the options of an invocation over them. -/
def Invocation.over (i : Invocation) (s : ConnectionSettings) :
    Except Failure ConnectionSettings := do
  let s := { s with host := i.host.getD s.host, port := i.port.getD s.port }
  match i.timeout with
  | none => pure s
  | some seconds => return { s with responseTimeout := ← timeoutOf seconds }

/-- The settings that an invocation works with, given the contents of the settings file. -/
def Invocation.settings (i : Invocation) (contents : Option Bytes) :
    Except Failure ConnectionSettings :=
  match i.config with
  | none => i.over .standard
  | some path => settingsOf path contents >>= i.over

/-- The configuration to be written, given the contents of its file. -/
def ConfigurationSource.configuration (source : ConfigurationSource) (contents : Option Bytes) :
    Except Failure Configuration :=
  match source with
  | .options totalTime windowTime deadtime filePrefix autosave monitor =>
    .ok ⟨totalTime, windowTime, deadtime, filePrefix, autosave, some monitor,
      Configuration.defaultFormat⟩
  | .file path =>
    match contents.bind Text.ofUtf8? with
    | none => .error (.unreadable path)
    | some t =>
      match (Json.read? t).bind Configuration.ofJson? with
      | some c => .ok c
      | none => .error (.notAConfiguration path)

/-! ## Connections -/

variable {m : Type → Type} {L : Type}

/-- A client over a fresh link that waits as the settings say. -/
def clientOf [Link L] (settings : ConnectionSettings) (link : L) : Except Error (Client L) := do
  let session ← Session.start link
  match (Session.setWait settings.responseTimeout).run session with
  | (.ok (), session) => return .ofSession session
  | (.error e, _) => throw e

/-- Makes a connection. -/
def Host.connect [Monad m] [Link L] (host : Host m L) (settings : ConnectionSettings) :
    m (Except Error (Client L)) := do
  match ← host.dial settings.address with
  | .error fault => return .error (.connectionFailed fault)
  | .ok link =>
    match clientOf settings link with
    | .ok client => return .ok client
    | .error e =>
      host.hangUp link
      return .error e

/-- Does something over a connection and gives it up afterwards. -/
def Host.over [Monad m] [Link L] (host : Host m L) (settings : ConnectionSettings)
    (act : Client L → Report × Client L) : m Report := do
  match ← host.connect settings with
  | .error e => return .failed (.call e)
  | .ok client =>
    let (report, client) := act client
    host.hangUp client.session.link
    return report

end TimingBoard.Tool
