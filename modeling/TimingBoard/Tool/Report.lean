import TimingBoard.Client.Configuration
import TimingBoard.Client.Poller

/-!
# Reports

What an action of the tool prints, and how it failed if it did. What was printed before a failure
stays printed.
-/

namespace TimingBoard.Tool

/-- Why an action failed. -/
inductive Failure where
  | call (error : Error)
  /-- The settings file could not be read or makes no sense. -/
  | settingsFile (path : Text)
  | timeoutNotPositive
  | timeoutOutOfRange (seconds : Binary64) (fault : SpanFault)
  /-- The file with a configuration could not be read. -/
  | unreadable (path : Text)
  /-- The file does not hold a configuration. -/
  | notAConfiguration (path : Text)
  | unwritable (path : Text)
  | pollingStopped (fault : PollFault)
  | notReconnected (address : Text)
  deriving DecidableEq

/-- The text of a failure. -/
def Failure.message : Failure → Text
  | .call error => error.message
  | .settingsFile path => "Failed to load settings from ".toList ++ path
  | .timeoutNotPositive => "Timeout must be a positive number of seconds".toList
  | .timeoutOutOfRange seconds fault =>
    "Timeout of ".toList ++ seconds.plain ++ " seconds is out of range: ".toList ++ fault.message
  | .unreadable path => "Failed to read ".toList ++ path
  | .notAConfiguration path => "Invalid configuration in ".toList ++ path
  | .unwritable path => "Failed to write ".toList ++ path
  | .pollingStopped fault => "Status polling stopped: ".toList ++ fault.message
  | .notReconnected address => "Could not reconnect to ".toList ++ address

/-- What was printed, and the failure that ended the action. -/
structure Report where
  printed : Text
  failure : Option Failure
  deriving DecidableEq

namespace Report

/-- The report of an action that prints something and does not fail. -/
def ok (printed : Text) : Report := ⟨printed, none⟩

/-- The report of an action that fails at once. -/
def failed (failure : Failure) : Report := ⟨[], some failure⟩

/-- The report with something printed before it. -/
def after (printed : Text) (r : Report) : Report :=
  { r with printed := printed ++ r.printed }

/-- A printed line. -/
def line (t : Text) : Text :=
  t ++ ['\n']

/-- A printed line of fixed wording. -/
def say (s : String) : Text :=
  line s.toList

/-- The report of a call whose answer is printed. -/
def ofCall {σ α : Type} (call : Call σ α) (shown : α → Text) (s : σ) : Report × σ :=
  match call.run s with
  | (.ok a, s) => (ok (shown a), s)
  | (.error e, s) => (failed (.call e), s)

end Report

/-! ## Tables -/

/-- The numbers of a statistics line, in columns. -/
def statisticsColumns (s : Statistics) : Text :=
  Text.join [' '] (s.fields.map fun n => Text.padStart 8 (Natural.digits n.toNat))

/-- The heads of the columns. -/
def statisticsHeads : Text :=
  ("  starts   win_ns     ch.1     ch.2     ch.3     ch.4     ch.5" ++
    "     ch.6     ch.7     ch.8").toList

/-- An agent, as it is printed. -/
def agentLine (a : Agent) : Text :=
  Report.line (Text.padStart 3 (Natural.digits a.id.toNat) ++ "  ".toList ++ a.mac)

/-- The agents, or that there are none. -/
def agentsShown (agents : List Agent) : Text :=
  if agents = [] then Report.say "No agents" else agents.flatMap agentLine

/-- The stored measurements with their statistics, or that there are none. -/
def tableShown (rows : List (Measurement × Statistics)) : Text :=
  if rows = [] then Report.say "No stored measurements"
  else
    Report.line ("   id ".toList ++ statisticsHeads) ++
      rows.flatMap fun (m, s) =>
        Report.line (Text.padStart 5 (Natural.digits m.id.toNat) ++ ' ' :: statisticsColumns s)

/-- The lines of statistics under the heads of their columns. -/
def statisticsShown (lines : List Statistics) : Text :=
  Report.line statisticsHeads ++ lines.flatMap fun s => Report.line (statisticsColumns s)

/-- A configuration, one setting a line. -/
def configurationShown (c : Configuration) : Text :=
  Report.line ("Total time:   ".toList ++ c.totalTime.text) ++
    Report.line ("Window time:  ".toList ++ c.windowTime.text) ++
    Report.line ("Deadtime:     ".toList ++ c.deadtime.text) ++
    Report.line ("Prefix:       ".toList ++
      if c.filePrefix = [] then "(none)".toList else c.filePrefix) ++
    Report.line ("Autosave:     ".toList ++ Natural.digits c.autosave.toNat) ++
    Report.line ("Monitor:      ".toList ++
      match c.monitor with
      | some m =>
        "save every ".toList ++ Natural.digits m.save.toNat ++ " starts, keep ".toList ++
          Natural.digits m.count.toNat ++ ", file ".toList ++ m.filename
      | none => "off".toList)

/-- A reply to a command that was typed. -/
def replyShown : Reply → Text
  | .ack | .empty => Report.say "OK"
  | .timing key value => Report.line (key.word ++ " = ".toList ++ value.text)
  | .filePrefix value =>
    Report.line ("PREFIX = ".toList ++ if value = [] then "(none)".toList else value)
  | .autosave n => Report.line ("AUTOSAVE = ".toList ++ Natural.digits n.toNat)
  | .monitor m =>
    Report.line ("MONITOR = ".toList ++ Natural.digits m.save.toNat ++
      ' ' :: Natural.digits m.count.toNat ++ ' ' :: m.filename)
  | .agents agents =>
    Report.line (Natural.digits agents.length ++ " agent(s)".toList) ++
      agents.flatMap agentLine
  | .status text => Report.line text
  | .measurements list =>
    Report.line (Natural.digits list.length ++ " measurement(s)".toList) ++
      list.flatMap fun m =>
        Report.line (Text.padStart 5 (Natural.digits m.id.toNat) ++ "  ".toList ++
          Natural.digits m.starts.toNat ++ " starts".toList)
  | .statistics s => Report.line (statisticsColumns s)
  | .statisticsList lines => lines.flatMap fun s => Report.line (statisticsColumns s)

end TimingBoard.Tool
