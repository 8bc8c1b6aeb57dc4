import TimingBoard.Proofs.Client.Dialogue

/-!
# The calls of a client

Everything that can be asked of a client, as one type: a typed command line, the settings, runs and
stored measurements, and a configuration as a whole.  Performing a call is what the client does.
Each call is a dialogue over the session of the client, and starts at most one run.
-/

namespace TimingBoard

/-- A call of a client. -/
inductive ClientCall where
  | raw (typed : Text)
  | set (setting : Setting)
  | timing (key : TimingKey)
  | filePrefix
  | autosave
  | monitor
  | agents
  | startRun (length : TimeText) (now : Instant)
  | stopRun
  | status
  | pollStatus (now : Instant)
  | measurements
  | statistics (id : UInt32) (cumulative : Bool)
  | table
  | save (id : UInt32) (file : Text)
  | delete (id : UInt32)
  | clear
  | write (configuration : Configuration)
  | read

/-- A call other than a typed line. -/
def ClientCall.IsTyped : ClientCall → Prop
  | raw _ => False
  | _ => True

/-- A look at the status for the tracker, which no user asks for. -/
def ClientCall.isPoll : ClientCall → Bool
  | pollStatus _ => true
  | _ => false

/-- What a call answers. -/
inductive Answer where
  | done
  | reply (value : Reply)
  | time (value : TimeText)
  | text (value : Text)
  | count (value : UInt32)
  | monitor (value : Monitor)
  | agents (list : List Agent)
  | update (value : StatusUpdate)
  | measurements (list : List Measurement)
  | statistics (lines : List Statistics)
  | table (rows : List (Measurement × Statistics))
  | configuration (value : Configuration)

namespace ClientCall

/-- What the client does for a call. -/
def perform {L : Type} [Link L] : ClientCall → Call (Client L) Answer
  | raw typed => .reply <$> Client.raw typed
  | set setting => (fun _ => .done) <$> Client.set setting
  | timing key => .time <$> Client.timing key
  | filePrefix => .text <$> Client.filePrefix
  | autosave => .count <$> Client.autosave
  | monitor => .monitor <$> Client.monitor
  | agents => .agents <$> Client.agents
  | startRun length now => (fun _ => .done) <$> Client.startRun length now
  | stopRun => (fun _ => .done) <$> Client.stopRun
  | status => .text <$> Client.status
  | pollStatus now => .update <$> Client.pollStatus now
  | measurements => .measurements <$> Client.measurements
  | statistics id cumulative => .statistics <$> Client.statistics id cumulative
  | table => .table <$> Client.table
  | save id file => (fun _ => .done) <$> Client.save id file
  | delete id => (fun _ => .done) <$> Client.delete id
  | clear => (fun _ => .done) <$> Client.clear
  | write configuration => (fun _ => .done) <$> configuration.write
  | read => .configuration <$> Configuration.read

end ClientCall

/-! ## The dialogues -/

namespace Dialogue

/-- Asks for a timing setting. -/
def timing (key : TimingKey) : Dialogue TimeText :=
  askFor (Command.make .get key.word) false fun
    | .timing got value => if got = key then some value else none
    | _ => none

/-- Asks for the prefix. -/
def filePrefix : Dialogue Text :=
  askFor (Command.make .get "PREFIX".toList) false fun
    | .filePrefix value => some value
    | _ => none

/-- Asks for the autosave interval. -/
def autosave : Dialogue UInt32 :=
  askFor (Command.make .get "AUTOSAVE".toList) false fun
    | .autosave count => some count
    | _ => none

/-- Asks for the live monitor. -/
def monitor : Dialogue Monitor :=
  askFor (Command.make .get "MONITOR".toList) false fun
    | .monitor value => some value
    | _ => none

/-- Asks for the agents. -/
def agents : Dialogue (List Agent) :=
  askFor (Command.make .get "AGENTS".toList) false fun
    | .agents list => some list
    | _ => none

/-- Starts a run and follows it. -/
def startRun (length : TimeText) (now : Instant) : Dialogue Unit := do
  tell (Command.make .measure "START".toList)
  track (fun tracker => tracker.start length now) fun _ => pure ()

/-- Asks for the status. -/
def status (silent : Bool) : Dialogue Text :=
  askFor (Command.make .measure "STATUS".toList) silent Client.statusOf?

/-- Asks for the status and takes note of it. -/
def pollStatus (now : Instant) : Dialogue StatusUpdate := do
  let status ← status true
  track (fun tracker => (tracker.observe status now).2) fun tracker =>
    pure (tracker.observe status now).1

/-- Asks for the stored measurements. -/
def measurements : Dialogue (List Measurement) :=
  askFor (Command.make .measure "LST".toList) false fun
    | .measurements list => some list
    | _ => none

/-- Asks for the statistics of a measurement. -/
def statistics (id : UInt32) (cumulative : Bool) : Dialogue (List Statistics) :=
  askFor (Client.statisticsRequest id cumulative) false fun
    | .statistics line => some [line]
    | .statisticsList lines => some lines
    | _ => none

/-- Asks for the statistics of each measurement of a list. -/
def withStatistics : List Measurement → Dialogue (List (Measurement × Statistics))
  | [] => pure []
  | m :: rest => do
    let lines ← statistics m.id true
    let rows ← withStatistics rest
    return (m, lines.headD .zero) :: rows

/-- Makes changes in order until one fails. -/
def makeChanges : List Setting → Dialogue Unit
  | [] => pure ()
  | change :: rest => do
    tell change.request
    makeChanges rest

/-- Writes a configuration. -/
def write (c : Configuration) : Dialogue Unit := do
  ofRequest c.check
  makeChanges c.plan

/-- Reads the configuration. -/
def read : Dialogue Configuration := do
  let totalTime ← timing .totalTime
  let windowTime ← timing .windowTime
  let deadtime ← timing .deadtime
  let filePrefix ← filePrefix
  let autosave ← autosave
  let monitor ← monitor
  return ⟨totalTime, windowTime, deadtime, filePrefix, autosave,
    (some monitor).filter Monitor.isComplete, Configuration.defaultFormat⟩

end Dialogue

namespace ClientCall

/-- What a call asks. -/
def dialogue : ClientCall → Dialogue Answer
  | raw typed => .reply <$> Dialogue.askFor (Command.read typed) false some
  | set setting => (fun _ => .done) <$> Dialogue.tell setting.request
  | timing key => .time <$> Dialogue.timing key
  | filePrefix => .text <$> Dialogue.filePrefix
  | autosave => .count <$> Dialogue.autosave
  | monitor => .monitor <$> Dialogue.monitor
  | agents => .agents <$> Dialogue.agents
  | startRun length now => (fun _ => .done) <$> Dialogue.startRun length now
  | stopRun => (fun _ => .done) <$> Dialogue.tell (Command.make .measure "STOP".toList)
  | status => .text <$> Dialogue.status false
  | pollStatus now => .update <$> Dialogue.pollStatus now
  | measurements => .measurements <$> Dialogue.measurements
  | statistics id cumulative => .statistics <$> Dialogue.statistics id cumulative
  | table => .table <$> (Dialogue.measurements >>= Dialogue.withStatistics)
  | save id file => (fun _ => .done) <$> Dialogue.tell (Client.saveRequest id file)
  | delete id => (fun _ => .done) <$>
      Dialogue.tell (Command.make .measure ("DEL ".toList ++ Natural.digits id.toNat))
  | clear => (fun _ => .done) <$> Dialogue.tell (Command.make .measure "CLR".toList)
  | write configuration => (fun _ => .done) <$> Dialogue.write configuration
  | read => .configuration <$> Dialogue.read

end ClientCall

namespace Dialogue

open Client

variable {α L : Type} [Link L]

lemma follow_raw (typed : Text) :
    (askFor (Command.read typed) false some).follow overSession = Client.raw (L := L) typed := by
  rw [follow_askFor]
  unfold Client.ask Client.raw Session.executeLine
  cases Command.read typed with
  | error cause => rfl
  | ok command => exact Call.bind_pure (Client.onSession (Session.execute command false))

lemma follow_startRun (length : TimeText) (now : Instant) :
    (startRun length now).follow overSession = Client.startRun (L := L) length now := by
  rw [startRun, follow_bind, follow_tell]
  rfl

lemma follow_pollStatus (now : Instant) :
    (pollStatus now).follow overSession = Client.pollStatus (L := L) now := by
  rw [pollStatus, follow_bind, status, follow_askFor]
  rfl

lemma follow_withStatistics (list : List Measurement) :
    (withStatistics list).follow overSession = Client.withStatistics (L := L) list := by
  induction list with
  | nil => rfl
  | cons m rest ih =>
    simp only [withStatistics, Client.withStatistics, follow_bind, ih]
    rw [statistics, follow_askFor]
    rfl

lemma follow_makeChanges (changes : List Setting) :
    (makeChanges changes).follow overSession = Configuration.makeChanges (L := L) changes := by
  induction changes with
  | nil => rfl
  | cons change rest ih =>
    simp only [makeChanges, Configuration.makeChanges, follow_bind, follow_tell, ih]
    rfl

lemma follow_write (c : Configuration) :
    (write c).follow overSession = c.write (L := L) := by
  rw [write, follow_bind, follow_ofRequest, Configuration.write]
  simp only [follow_makeChanges]

lemma follow_read : read.follow overSession = Configuration.read (L := L) := by
  simp only [read, follow_bind, timing, filePrefix, autosave, monitor, follow_askFor]
  rfl

end Dialogue

namespace ClientCall

/-- What the client does for a call is to follow its dialogue over the session. -/
theorem perform_eq_follow {L : Type} [Link L] (call : ClientCall) :
    call.perform = call.dialogue.follow (Client.overSession (L := L)) := by
  cases call
  all_goals rw [perform, dialogue, Dialogue.follow_map]
  case raw typed => rw [Dialogue.follow_raw]
  case set setting => rw [Dialogue.follow_tell]; rfl
  case timing key => rw [Dialogue.timing, Dialogue.follow_askFor]; rfl
  case filePrefix => rw [Dialogue.filePrefix, Dialogue.follow_askFor]; rfl
  case autosave => rw [Dialogue.autosave, Dialogue.follow_askFor]; rfl
  case monitor => rw [Dialogue.monitor, Dialogue.follow_askFor]; rfl
  case agents => rw [Dialogue.agents, Dialogue.follow_askFor]; rfl
  case startRun length now => rw [Dialogue.follow_startRun]
  case stopRun => rw [Dialogue.follow_tell]; rfl
  case status => rw [Dialogue.status, Dialogue.follow_askFor]; rfl
  case pollStatus now => rw [Dialogue.follow_pollStatus]
  case measurements => rw [Dialogue.measurements, Dialogue.follow_askFor]; rfl
  case statistics id cumulative => rw [Dialogue.statistics, Dialogue.follow_askFor]; rfl
  case table =>
    rw [Dialogue.follow_bind, Dialogue.measurements, Dialogue.follow_askFor]
    simp only [Dialogue.follow_withStatistics]
    rfl
  case save id file => rw [Dialogue.follow_tell]; rfl
  case delete id => rw [Dialogue.follow_tell]; rfl
  case clear => rw [Dialogue.follow_tell]; rfl
  case write configuration => rw [Dialogue.follow_write]
  case read => rw [Dialogue.follow_read]

end ClientCall

/-! ## Runs that calls start -/

namespace Dialogue

/-- A request for a setting starts no run. -/
lemma startsAtMost_get {key : Text} {silent : Bool} {kind : Reply → Option α} :
    (askFor (Command.make .get key) silent kind).StartsAtMost 0 :=
  startsAtMost_askFor fun c hc => by
    rw [Command.startCount_of_verb (by simp [(Command.make_eq_ok hc).1])]

lemma startsAtMost_change (setting : Setting) : (tell setting.request).StartsAtMost 0 :=
  startsAtMost_askFor fun c hc => by
    rw [Command.startCount_of_verb (by simp [Setting.verb_of_request hc])]

lemma startsAtMost_makeChanges (changes : List Setting) : (makeChanges changes).StartsAtMost 0 := by
  induction changes with
  | nil => trivial
  | cons change rest ih => exact (startsAtMost_change change).bind fun _ => ih

/-- A request about measurements starts no run unless it begins with the word for a start. -/
lemma startsAtMost_measure {argument : Text} {silent : Bool} {kind : Reply → Option α}
    (hspace : ∀ a ∈ argument.head?, Text.isSpace a = false)
    (hstart : ¬ "START".toList <+: argument) :
    (askFor (Command.make .measure argument) silent kind).StartsAtMost 0 :=
  startsAtMost_askFor fun _ hc => by rw [Command.startCount_of_make hc hspace hstart]

lemma startsAtMost_statistics (id : UInt32) (cumulative : Bool) :
    (statistics id cumulative).StartsAtMost 0 := by
  refine startsAtMost_measure ?_ ?_ <;> simp [Text.isSpace]

lemma startsAtMost_withStatistics (list : List Measurement) :
    (withStatistics list).StartsAtMost 0 := by
  induction list with
  | nil => trivial
  | cons m rest ih =>
    exact (startsAtMost_statistics m.id true).bind fun _ => ih.map _

lemma startsAtMost_read : read.StartsAtMost 0 :=
  startsAtMost_get.bind fun _ => startsAtMost_get.bind fun _ => startsAtMost_get.bind fun _ =>
    startsAtMost_get.bind fun _ => startsAtMost_get.bind fun _ => startsAtMost_get.map _

end Dialogue

namespace ClientCall

open Dialogue

/-- The most runs that a call can start. -/
def startCount : ClientCall → Nat
  | raw _ => 1
  | startRun _ _ => 1
  | _ => 0

lemma startCount_le_one (call : ClientCall) : call.startCount ≤ 1 := by
  cases call <;> simp [startCount]

/-- A call starts no more runs than it can: one for a start or a typed line, and none for the
others. -/
theorem startsAtMost_startCount (call : ClientCall) :
    call.dialogue.StartsAtMost call.startCount := by
  cases call
  case raw typed => exact (startsAtMost_askFor fun c _ => c.startCount_le_one).map _
  case set setting => exact (startsAtMost_change setting).map _
  case timing key => exact startsAtMost_get.map _
  case filePrefix => exact startsAtMost_get.map _
  case autosave => exact startsAtMost_get.map _
  case monitor => exact startsAtMost_get.map _
  case agents => exact startsAtMost_get.map _
  case startRun length now =>
    have htell : (Dialogue.tell (Command.make .measure "START".toList)).StartsAtMost 1 :=
      startsAtMost_askFor fun c _ => c.startCount_le_one
    have hrun : (Dialogue.startRun length now).StartsAtMost 1 :=
      htell.bind_of_zero fun _ _ => trivial
    exact hrun.map _
  case stopRun => exact (startsAtMost_measure (by decide) (by decide)).map _
  case status => exact (startsAtMost_measure (by decide) (by decide)).map _
  case pollStatus now =>
    have hstatus : (Dialogue.status true).StartsAtMost 0 :=
      startsAtMost_measure (by decide) (by decide)
    have hpoll : (Dialogue.pollStatus now).StartsAtMost 0 :=
      hstatus.bind_of_zero fun _ _ => trivial
    exact hpoll.map _
  case measurements => exact (startsAtMost_measure (by decide) (by decide)).map _
  case statistics id cumulative => exact (startsAtMost_statistics id cumulative).map _
  case table =>
    have hlist : Dialogue.measurements.StartsAtMost 0 :=
      startsAtMost_measure (by decide) (by decide)
    exact (hlist.bind startsAtMost_withStatistics).map _
  case save id file =>
    have hsave : (Dialogue.tell (Client.saveRequest id file)).StartsAtMost 0 := by
      refine startsAtMost_askFor fun c hc => ?_
      have hmake := (Token.require_bind_eq_ok.1 hc).2
      rw [Command.startCount_of_make hmake (by simp [Text.isSpace]) (by simp)]
    exact hsave.map _
  case delete id => exact (startsAtMost_measure (by simp [Text.isSpace]) (by simp)).map _
  case clear => exact (startsAtMost_measure (by decide) (by decide)).map _
  case write configuration =>
    have hcheck : (ofRequest configuration.check).StartsAtMost 0 := trivial
    exact (hcheck.bind fun _ => startsAtMost_makeChanges configuration.plan).map _
  case read => exact startsAtMost_read.map _

/-- A call starts at most one run. -/
theorem startsAtMost_dialogue (call : ClientCall) : call.dialogue.StartsAtMost 1 :=
  call.startsAtMost_startCount.mono call.startCount_le_one

end ClientCall

end TimingBoard
