import TimingBoard.Run.Deadtime
import TimingBoard.Tool.Repl
import TimingBoard.Tool.Watch

/-!
# Running the tool

One invocation: the command line is read, the settings are put together, the action is done and its
report printed, and the ending says what went wrong, and with which code the tool ends. A command
line that makes no sense ends with code 2, a failure with code 1.
-/

namespace TimingBoard.Tool

/-- How an invocation ended. -/
structure Ending where
  code : Nat
  /-- The line that tells of a failure, or of how the tool is used. -/
  complaint : Option Text
  deriving DecidableEq

/-- The ending that a report leads to. -/
def Report.ending (r : Report) : Ending :=
  match r.failure with
  | none => ⟨0, none⟩
  | some f => ⟨1, some ("Error: ".toList ++ f.message)⟩

/-- The name and the version of the tool. -/
def versionLine : Text := Report.say "atmd_tool 0.1.0"

/-- How the tool is used. -/
def usage : Text := "Usage: atmd_tool [OPTIONS] <COMMAND>".toList

/-! ## Actions -/

variable {m : Type → Type} {L : Type} [Monad m] [Link L]

/-- Starts a measurement, and follows it if asked to. The total time is set first if one is given,
and read from the board otherwise. -/
def start (host : Host m L) (settings : ConnectionSettings) (duration : Option TimeText)
    (watch : Bool) (c : Client L) : Report × Client L :=
  let begin : Call (Client L) TimeText := do
    let length ← match duration with
      | some d => do
        Client.set (.timing .totalTime d)
        pure d
      | none => Client.timing .totalTime
    Client.startRun length host.now
    return length
  match begin.run c with
  | (.error e, c) => (.failed (.call e), c)
  | (.ok length, c) =>
    let notice := Report.line ("Measurement started (".toList ++ length.text ++ [')'])
    if watch then
      let (report, c) := Watch.run settings.pollInterval true host.happenings c
      (report.after notice, c)
    else (.ok notice, c)

/-- The result of the deadtime estimate, with one place after the point. -/
def deadtimeShown (estimate : Option Binary64) : Text :=
  Report.line ("Deadtime: ".toList ++
    match estimate with
    | some d => d.fixed 1
    | none => "n.a.".toList)

/-- Shows the settings, and writes them to a file if one is named. They are printed before they are
written, as the file may be where the tool prints. -/
def showSettings (host : Host m L) (settings : ConnectionSettings) (save : Option Text) :
    m Report := do
  let shown := Report.line settings.toJson.pretty
  match save with
  | none => return .ok shown
  | some path =>
    host.print shown
    if ← host.writeFile path settings.toFile then
      return .ok (Report.line ("Saved to ".toList ++ path))
    else return .failed (.unwritable path)

/-- Writes a configuration. -/
def configure (host : Host m L) (settings : ConnectionSettings) (source : ConfigurationSource) :
    m Report := do
  let contents ← match source with
    | .file path => host.readFile path
    | _ => pure none
  match source.configuration contents with
  | .error f => return .failed f
  | .ok c =>
    host.over settings (Report.ofCall c.write fun _ => Report.say "Configuration written")

/-- Does an action. -/
def perform (host : Host m L) (settings : ConnectionSettings) : Action → m Report
  | .status => host.over settings (Report.ofCall Client.status Report.line)
  | .config json =>
    host.over settings (Report.ofCall Configuration.read fun c =>
      if json then Report.line c.toJson.pretty else configurationShown c)
  | .configure source => configure host settings source
  | .start duration watch => host.over settings (start host settings duration watch)
  | .stop =>
    host.over settings (Report.ofCall Client.stopRun fun _ => Report.say "Measurement stopped")
  | .watch untilFinished =>
    host.over settings (Watch.run settings.pollInterval untilFinished host.happenings)
  | .list => host.over settings (Report.ofCall Client.table tableShown)
  | .stats id perStart =>
    host.over settings (Report.ofCall (Client.statistics id !perStart) statisticsShown)
  | .save id file =>
    host.over settings (Report.ofCall (Client.save id file) fun _ =>
      Report.line ("Measurement ".toList ++ Natural.digits id.toNat ++ " saved to ".toList ++ file))
  | .delete id =>
    host.over settings (Report.ofCall (Client.delete id) fun _ =>
      Report.line ("Measurement ".toList ++ Natural.digits id.toNat ++ " deleted".toList))
  | .clear =>
    host.over settings (Report.ofCall Client.clear fun _ => Report.say "All measurements deleted")
  | .agents => host.over settings (Report.ofCall Client.agents agentsShown)
  | .repl => Repl.run host settings
  | .deadtime counts window slots cycle =>
    return .ok (deadtimeShown (Deadtime.estimate? counts window slots cycle))
  | .settings save => showSettings host settings save

/-- Carries out an invocation. -/
def invoke (host : Host m L) (i : Invocation) : m Report := do
  let contents ← match i.config with
    | some path => host.readFile path
    | none => pure none
  match i.settings contents with
  | .error f => return .failed f
  | .ok settings => perform host settings i.action

/-- Prints a report and ends. -/
def conclude (host : Host m L) (report : Report) : m Ending := do
  host.print report.printed
  return report.ending

/-- Runs the tool with its arguments. -/
def run (host : Host m L) (arguments : List Text) : m Ending := do
  match Asked.read arguments with
  | .version => conclude host (.ok versionLine)
  | .help => conclude host (.ok (Report.line usage))
  | .misuse => return ⟨2, some usage⟩
  | .run invocation => conclude host (← invoke host invocation)

end TimingBoard.Tool
