import TimingBoard.Tool.Connect

/-!
# Typing commands

Commands can be typed one per line, and each is answered before the next. Empty lines are passed
over, and `quit` or `exit` in any case of letters ends the conversation. An error is shown and the
conversation goes on; when the connection is lost, a few attempts are made to get a new one.
-/

namespace TimingBoard.Tool.Repl

/-- What is printed before the first command. -/
def greeting (status : Text) : Text :=
  Report.line ("Board status: ".toList ++ status) ++ Report.say "" ++
    Report.say "ATMD REPL - Enter protocol commands, 'quit' to exit" ++
    Report.say "Use Up/Down arrows for command history" ++
    Report.say "Examples: GET TT, SET TT 10s, GET AGENTS, MSR STATUS, MSR LST" ++ Report.say ""

/-- Whether a line ends the conversation. -/
def isFarewell (line : Text) : Bool :=
  let word := line.map Char.toLower
  word == "quit".toList || word == "exit".toList

variable {m : Type → Type} {L : Type} [Monad m] [Link L]

/-- Attempts to get a new connection, as many as are left of five. -/
def reconnect (host : Host m L) (settings : ConnectionSettings) :
    Nat → m (Text × Option (Client L))
  | 0 => return (['\n'], none)
  | left + 1 => do
    let attempt := "\rReconnecting... (attempt ".toList ++ Natural.digits (5 - left) ++
      "/5)      ".toList
    match ← host.connect settings with
    | .ok client =>
      let notice := "\rReconnected                                  \n".toList
      return (attempt ++ notice, some client)
    | .error _ =>
      let (printed, client) ← reconnect host settings left
      return (attempt ++ printed, client)

/-- Answers the lines that are typed. -/
def converse (host : Host m L) (settings : ConnectionSettings) (client : Client L) :
    List Text → m (Report × Client L)
  | [] => return (.ok [], client)
  | typed :: rest => do
    let line := Text.trim typed
    if line = [] then converse host settings client rest
    else if isFarewell line then return (.ok (Report.say "Bye!"), client)
    else
      match (Client.raw line).run client with
      | (.ok reply, client) =>
        let (report, client) ← converse host settings client rest
        return (report.after (replyShown reply), client)
      | (.error e, client) =>
        if e.losesConnection then
          let notice := Report.line ("Connection lost: ".toList ++ e.message)
          host.hangUp client.session.link
          match ← reconnect host settings 5 with
          | (printed, some client) =>
            let (report, client) ← converse host settings client rest
            return (report.after (notice ++ printed), client)
          | (printed, none) =>
            return (⟨notice ++ printed, some (.notReconnected settings.address)⟩, client)
        else
          let (report, client) ← converse host settings client rest
          return (report.after (Report.line ("Error: ".toList ++ e.message)), client)

/-- Holds a conversation over the lines of the input. -/
def run (host : Host m L) (settings : ConnectionSettings) : m Report := do
  let hello := Report.line
    ("Connecting to ATMD server at ".toList ++ settings.address ++ "...".toList)
  match ← host.connect settings with
  | .error e => return (Report.failed (.call e)).after hello
  | .ok client =>
    match Client.status.run client with
    | (.error e, client) =>
      host.hangUp client.session.link
      return (Report.failed (.call e)).after hello
    | (.ok status, client) =>
      let (report, client) ← converse host settings client (Text.lines (← host.input))
      host.hangUp client.session.link
      return report.after (hello ++ greeting status)

end TimingBoard.Tool.Repl
