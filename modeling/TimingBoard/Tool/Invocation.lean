import TimingBoard.Client.Basic
import TimingBoard.Tool.Arguments

/-!
# Invocations

What the tool is asked to do: one action, and the options that say where the server is. These
options can stand before the name of the action or after it; the later place counts.
-/

namespace TimingBoard.Tool

/-! ## What can be asked -/

/-- Where the configuration to be written comes from. -/
inductive ConfigurationSource where
  /-- A file. -/
  | file (path : Text)
  /-- The options of the action. -/
  | options (totalTime windowTime deadtime : TimeText) (filePrefix : Text) (autosave : UInt32)
      (monitor : Monitor)
  deriving DecidableEq

/-- An action of the tool. -/
inductive Action where
  | status
  | config (json : Bool)
  | configure (source : ConfigurationSource)
  | start (duration : Option TimeText) (watch : Bool)
  | stop
  | watch (untilFinished : Bool)
  | list
  | stats (id : UInt32) (perStart : Bool)
  | save (id : UInt32) (file : Text)
  | delete (id : UInt32)
  | clear
  | agents
  | repl
  | deadtime (counts window slots cycle : Binary64)
  | settings (save : Option Text)
  deriving DecidableEq

/-- An invocation of the tool. -/
structure Invocation where
  /-- The settings file. -/
  config : Option Text
  host : Option Text
  port : Option UInt16
  /-- The wait for replies, in seconds. -/
  timeout : Option Binary64
  action : Action
  deriving DecidableEq

/-- What a command line asks for. -/
inductive Asked where
  | version
  | help
  | misuse
  | run (invocation : Invocation)
  deriving DecidableEq

/-! ## Options and values of the actions -/

/-- A 32-bit number. -/
def count : ValueKind := .whole UInt32.size

/-- The options that say where the server is. -/
def commonOptions : List OptionSpec := [
  valued "config" .path, valued "host" .text, valued "port" (.whole UInt16.size),
  valued "timeout" .number]

/-- The options and values of an action, by its name. -/
def shape? (name : String) : Option (List OptionSpec × List ValueKind) :=
  match name with
  | "status" | "stop" | "list" | "clear" | "agents" | "repl" => some ([], [])
  | "config" => some ([flag "json" none], [])
  | "configure" => some ([
      valued "total-time" .time, valued "window-time" .time, valued "deadtime" .time,
      valued "prefix" .text, valued "autosave" count, valued "monitor-save" count,
      valued "monitor-count" count, valued "monitor-file" .text, valued "from" .path], [])
  | "start" => some ([⟨"duration".toList, some 'd', some .time⟩, flag "watch" (some 'w')], [])
  | "watch" => some ([flag "until-finished" none], [])
  | "stats" => some ([flag "per-start" none], [count])
  | "save" => some ([], [count, .text])
  | "delete" => some ([], [count])
  | "deadtime" => some ([
      valued "counts" .number, valued "window-time" .number, valued "tdma-slots" .number,
      valued "cycle" .number], [])
  | "settings" => some ([valued "save" .path], [])
  | _ => none

/-! ## Values of their kinds -/

/-- The 32-bit number in a value. -/
def count? (t : Text) : Option UInt32 :=
  (readWhole? UInt32.size t).map UInt32.ofNat

/-- The number in an option that must be given. -/
def Given.number? (g : Given) (name : String) : Option Binary64 :=
  (g.option? name).bind Binary64.read?

/-- The time in an option, or the time that leaves its setting alone. -/
def Given.timeOr (g : Given) (name : String) : TimeText :=
  ((g.option? name).bind readTime?).getD .unchanged

/-- The number in an option, or zero. -/
def Given.countOr (g : Given) (name : String) : UInt32 :=
  ((g.option? name).bind count?).getD 0

/-- The text in an option, or no text. -/
def Given.textOr (g : Given) (name : String) : Text :=
  (g.option? name).getD []

/-- The source of a configuration: a file if one is named, and otherwise the options. -/
def Given.source (g : Given) : ConfigurationSource :=
  match g.option? "from" with
  | some path => .file path
  | none =>
    .options (g.timeOr "total-time") (g.timeOr "window-time") (g.timeOr "deadtime")
      (g.textOr "prefix") (g.countOr "autosave")
      ⟨g.countOr "monitor-save", g.countOr "monitor-count", g.textOr "monitor-file"⟩

/-- The action of a name and what was given for it. Options and values without a default must be
given. -/
def action? (name : String) (g : Given) : Option Action :=
  match name, g.values with
  | "status", [] => some .status
  | "config", [] => some (.config (g.has "json"))
  | "configure", [] => some (.configure g.source)
  | "start", [] => some (.start ((g.option? "duration").bind readTime?) (g.has "watch"))
  | "stop", [] => some .stop
  | "watch", [] => some (.watch (g.has "until-finished"))
  | "list", [] => some .list
  | "stats", [id] => return .stats (← count? id) (g.has "per-start")
  | "save", [id, file] => return .save (← count? id) file
  | "delete", [id] => return .delete (← count? id)
  | "clear", [] => some .clear
  | "agents", [] => some .agents
  | "repl", [] => some .repl
  | "deadtime", [] =>
    return .deadtime (← g.number? "counts") (← g.number? "window-time")
      ((g.number? "tdma-slots").getD (.ofNat 1)) (← g.number? "cycle")
  | "settings", [] => some (.settings (g.option? "save"))
  | _, _ => none

/-! ## Command lines -/

/-- The invocation of an action, from what was given before its name and after it. -/
def invocation? (name : String) (before after : Given) : Option Invocation := do
  let action ← action? name after
  let common (option : String) : Option Text :=
    (after.option? option).or (before.option? option)
  return {
    config := common "config"
    host := common "host"
    port := (common "port").bind fun t => (readWhole? UInt16.size t).map UInt16.ofNat
    timeout := (common "timeout").bind Binary64.read?
    action := action }

/-- What a reading that stopped early asks for. -/
def Stop.asked : Stop → Asked
  | .help => .help
  | .misuse => .misuse

/-- Asks for help on everything, or on one action. -/
def readHelp (topics : List Text) : Asked :=
  match topics.map String.ofList with
  | [] => .help
  | [name] => if (shape? name).isSome ∨ name = "help" then .help else .misuse
  | _ => .misuse

/-- Reads the arguments after the name of an action. -/
def readAction (before : Given) (name : Text) (rest : List Text) : Asked :=
  let name := String.ofList name
  match shape? name with
  | none => if name = "help" then readHelp rest else .misuse
  | some (options, kinds) =>
    match readGiven (options ++ commonOptions ++ [helpOption]) kinds false .nothing rest with
    | .error stop => stop.asked
    | .ok after =>
      match invocation? name before after with
      | some invocation => .run invocation
      | none => .misuse

/-- Reads the arguments up to the name of an action, given what was read before. -/
def readBefore (g : Given) : List Text → Asked
  | [] => .misuse
  | t :: rest =>
    match Argument.of t with
    | .hyphens => .misuse
    | .value name => readAction g name rest
    | .letters ('V' :: _) => .version
    | .letters ('h' :: _) => .help
    | .letters _ => .misuse
    | .named name given =>
      if name = "version".toList ∧ given = none then .version
      else if name = "help".toList ∧ given = none then .help
      else
        match commonOptions.find? (·.name == name), given with
        | none, _ => .misuse
        | some spec, some v =>
          match g.add? spec v with
          | some g => readBefore g rest
          | none => .misuse
        | some spec, none =>
          match rest with
          | [] => .misuse
          | next :: rest =>
            match Argument.of next with
            | .value v =>
              match g.add? spec v with
              | some g => readBefore g rest
              | none => .misuse
            | _ => .misuse

/-- What a command line asks for. -/
def Asked.read (arguments : List Text) : Asked :=
  readBefore .nothing arguments

end TimingBoard.Tool
