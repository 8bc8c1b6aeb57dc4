import TimingBoard.Proofs.Board.Settings
import TimingBoard.Proofs.Client.Calls
import TimingBoard.Proofs.Session.Exchange

/-!
# Boards that are reached by typed calls

A client sends commands to the board whatever becomes of their replies.  So what every command of a
call keeps true of the board, the call keeps, in whatever state the session is.

The board can be read back as long as its prefix is not the word that stands for none.  A typed call
sets a prefix that is a token, or none, and if nobody chooses that word then every board that is
reached can be read back.
-/

namespace TimingBoard

variable {α σ L : Type}

/-! ## Commands of a dialogue -/

namespace Dialogue

/-- A dialogue all of whose commands have a property. -/
def AsksOnly (Q : Command → Prop) : Dialogue α → Prop
  | stop _ => True
  | ask command _ next => Q command ∧ ∀ reply, AsksOnly Q (next reply)
  | track _ next => ∀ tracker, AsksOnly Q (next tracker)

variable {β : Type} {Q : Command → Prop} {d : Dialogue α}

lemma AsksOnly.bind {f : α → Dialogue β} (h : d.AsksOnly Q) (hf : ∀ a, (f a).AsksOnly Q) :
    (d >>= f).AsksOnly Q := by
  change (d.andThen f).AsksOnly Q
  induction d with
  | stop result =>
    cases result with
    | ok a => exact hf a
    | error e => trivial
  | ask command silent next ih => exact ⟨h.1, fun reply => ih reply (h.2 reply)⟩
  | track change next ih => exact fun tracker => ih tracker (h tracker)

lemma AsksOnly.map (h : d.AsksOnly Q) (f : α → β) : (f <$> d).AsksOnly Q :=
  h.bind fun _ => trivial

/-- A request asks only its command. -/
lemma asksOnly_askFor {request : Except Refusal Command} {silent : Bool} {kind : Reply → Option α}
    (h : ∀ c, request = .ok c → Q c) : (askFor request silent kind).AsksOnly Q := by
  cases request with
  | error cause => trivial
  | ok command =>
    refine ⟨h command rfl, fun reply => ?_⟩
    dsimp only
    cases kind reply <;> trivial

/-- What every command keeps is kept by a dialogue, if a change of the tracker keeps it too. -/
lemma keeps_follow {executor : Executor σ} {P : σ → Prop} (h : d.AsksOnly Q)
    (hexecute : ∀ command silent, Q command → Call.Keeps P (executor.execute command silent))
    (htrack : ∀ change, Call.Keeps P (executor.track change)) :
    Call.Keeps P (d.follow executor) := by
  induction d with
  | stop result => exact Call.keeps_ofExcept result
  | ask command silent next ih =>
    exact (hexecute command silent h.1).bind fun reply => ih reply (h.2 reply)
  | track change next ih => exact (htrack change).bind fun tracker => ih tracker (h tracker)

end Dialogue

/-! ## The board behind a session -/

namespace Session

/-- A session over a connection whose board has a property, with no line begun. -/
def HasBoard (P : Board → Prop) (s : Session Connection) : Prop :=
  s.link.unfinished = [] ∧ P s.link.board

variable {P : Board → Prop}

lemma keeps_note (silent : Bool) (entry : LogEntry) :
    Call.Keeps (HasBoard P) (note silent entry) := by
  intro s hs
  rw [run_note]
  cases silent <;> exact hs

/-- Reading does not touch the board. -/
lemma keeps_readFrame : Call.Keeps (HasBoard P) readFrame := by
  refine keeps_readFrame_of_link (P := fun c : Connection => c.unfinished = [] ∧ P c.board) ?_
  intro c size hc
  rcases hread : Link.read size c with ⟨result, c'⟩
  obtain ⟨chunk, rest, -, -, rfl⟩ | ⟨-, -, rfl⟩ := Connection.read_cases hread
  · exact hc
  · exact hc

/-- Sending hands the command to the board, unless the connection is lost. -/
lemma keeps_send {command : Command} (h : ∀ b now, P b → P (b.handle now command.line).2) :
    Call.Keeps (HasBoard P) (send command) := by
  intro s hs
  rcases hconnected : s.connected with _ | _
  · have hlost : (send command).run s = (.error .notConnected, s) :=
      ensureConnected_bind_run hconnected _
    rwa [hlost]
  · rw [run_send hconnected hs.1]
    exact ⟨hs.1, h _ _ hs.2⟩

/-- A command does to the board what the board does with its line. -/
lemma keeps_execute {command : Command} (h : ∀ b now, P b → P (b.handle now command.line).2)
    (silent : Bool) : Call.Keeps (HasBoard P) (execute command silent) :=
  (keeps_send h).bind fun _ => (keeps_note silent _).bind fun _ => keeps_readFrame.bind fun frame =>
    (keeps_note silent _).bind fun _ => Call.keeps_decode keeps_readFrame command frame

end Session

/-! ## Commands that leave a board readable -/

/-- A command that does not set the prefix, or sets it to a token other than the word that stands
for none. -/
def Command.LeavesReadable (c : Command) : Prop :=
  c.verb = .set → (Text.cutAtSpace c.argument).1 = "PREFIX".toList →
    Token.isToken (Text.cutAtSpace c.argument).2 = true ∧
      (Text.cutAtSpace c.argument).2 ≠ "NONE".toList

namespace Board

variable {b : Board} {c : Command}

/-- What a board keeps as long as its settings are the same, and in each change that a command can
make, it keeps when the line of the command comes. -/
lemma keeps_handle {P : Board → Prop} (hsame : ∀ {b b'}, P b → SameSettings b b' → P b')
    (happly : c.verb = .set → ∀ {b} {setting : Setting}, P b →
      setting.IsReadFrom (Text.cutAtSpace c.argument).1 (Text.cutAtSpace c.argument).2 →
        P (setting.apply b))
    (h : P b) (now : Instant) : P (b.handle now c.line).2 := by
  have hprepared : P (b.prepared now c.line) := hsame h (sameSettings_prepared now c.line b)
  rw [handle_line]
  split
  · next hverb => exact of_answerSet hprepared fun setting hread => happly hverb hprepared hread
  · exact hprepared
  · exact hsame hprepared (sameSettings_answerMeasure _ _ _)
  · exact hprepared

/-- A change of settings keeps the times and the prefix readable. -/
lemma IsReadable.apply {setting : Setting} {key value : Text} (h : b.IsReadable)
    (hread : setting.IsReadFrom key value)
    (hfile : key = "PREFIX".toList → Token.isToken value = true ∧ value ≠ "NONE".toList) :
    (setting.apply b).IsReadable := by
  constructor
  · exact settableTimes_apply h.timing hread
  · cases setting with
    | timing key value => cases key <;> exact h.filePrefix
    | filePrefix name =>
      obtain ⟨hkey, rfl, -⟩ := hread
      exact Or.inr (hfile hkey)
    | _ => exact h.filePrefix

/-- A command that leaves a board readable does so whenever it comes. -/
lemma IsReadable.handle (h : b.IsReadable) (hc : c.LeavesReadable) (now : Instant) :
    (b.handle now c.line).2.IsReadable :=
  keeps_handle IsReadable.of_sameSettings (fun hverb _ _ h hread => h.apply hread (hc hverb)) h now

end Board

/-- A command that is not for setting leaves a board readable. -/
lemma Command.leavesReadable_of_verb {c : Command} (h : c.verb ≠ .set) : c.LeavesReadable :=
  fun hverb => absurd hverb h

/-- A change leaves a board readable unless it sets the prefix to the word that stands for none. -/
lemma Setting.leavesReadable {setting : Setting} {c : Command} (h : setting.request = .ok c)
    (hnone : setting ≠ .filePrefix "NONE".toList) : c.LeavesReadable := by
  intro _ hkey
  have hother {argument : Text} (hmake : Command.make .set argument = .ok c)
      (hspace : ∀ a ∈ argument.head?, Text.isSpace a = false)
      (hword : ¬ "PREFIX".toList <+: argument) : False := by
    have hbegins := Command.key_isPrefix_of_make hmake hspace
    rw [hkey] at hbegins
    exact hword hbegins
  cases setting with
  | timing key value =>
    refine (hother h ?_ ?_).elim
    · cases key <;> simp [TimingKey.word, Text.isSpace]
    · cases key <;> simp [TimingKey.word]
  | filePrefix value =>
    obtain ⟨htoken, hmake⟩ := Token.require_bind_eq_ok.1 h
    have hcut : Text.cutAtSpace c.argument = ("PREFIX".toList, value) :=
      Board.cutAtSpace_argument hmake (by decide) (by decide) (Token.isToken_iff.1 htoken).1
        fun a ha => Token.isSpace_of_mem htoken a (List.mem_of_mem_getLast? ha)
    rw [hcut]
    exact ⟨htoken, fun hvalue => hnone (congrArg _ hvalue)⟩
  | autosave count => exact (hother h (by simp [Text.isSpace]) (by simp)).elim
  | format number => exact (hother h (by simp [Text.isSpace]) (by simp)).elim
  | monitor value =>
    cases value with
    | none => exact (hother h (by decide) (by decide)).elim
    | some m =>
      obtain ⟨-, hmake⟩ := Token.require_bind_eq_ok.1 h
      exact (hother hmake (by simp [Text.isSpace]) (by simp)).elim

/-! ## Calls and their changes -/

namespace Dialogue

variable {Q : Command → Prop} {silent : Bool} {kind : Reply → Option α}

/-- A question asks what changes no setting. -/
lemma asksOnly_question (hQ : ∀ c : Command, c.verb ≠ .set → Q c) {verb : Verb} {argument : Text}
    (hverb : verb ≠ .set) : (askFor (Command.make verb argument) silent kind).AsksOnly Q := by
  refine asksOnly_askFor fun c hc => hQ c ?_
  rw [(Command.make_eq_ok hc).1]
  exact hverb

lemma asksOnly_makeChanges {changes : List Setting}
    (h : ∀ setting ∈ changes, ∀ c, setting.request = .ok c → Q c) :
    (makeChanges changes).AsksOnly Q := by
  induction changes with
  | nil => trivial
  | cons change rest ih =>
    obtain ⟨hchange, hrest⟩ := List.forall_mem_cons.1 h
    exact (asksOnly_askFor hchange).bind fun _ => ih hrest

lemma asksOnly_withStatistics (hQ : ∀ c : Command, c.verb ≠ .set → Q c) (list : List Measurement) :
    (withStatistics list).AsksOnly Q := by
  induction list with
  | nil => trivial
  | cons m rest ih => exact (asksOnly_question hQ (by decide)).bind fun _ => ih.map _

lemma asksOnly_read (hQ : ∀ c : Command, c.verb ≠ .set → Q c) : read.AsksOnly Q := by
  have hget {key : Text} {β : Type} {kind : Reply → Option β} :
      (askFor (Command.make .get key) false kind).AsksOnly Q := asksOnly_question hQ (by decide)
  exact hget.bind fun _ => hget.bind fun _ => hget.bind fun _ => hget.bind fun _ =>
    hget.bind fun _ => hget.map _

end Dialogue

namespace Configuration

variable {c : Configuration} {setting : Setting}

/-- A time of a configuration. -/
def timing (c : Configuration) : TimingKey → TimeText
  | .totalTime => c.totalTime
  | .windowTime => c.windowTime
  | .deadtime => c.deadtime

/-- The changes that a configuration plans. -/
lemma cases_of_mem_plan (h : setting ∈ c.plan) :
    (∃ key, (c.timing key).isUnchanged = false ∧ setting = .timing key (c.timing key)) ∨
      (c.autosave ≠ 0 ∧ setting = .filePrefix c.filePrefix) ∨ setting = .autosave c.autosave ∨
      setting = .format c.format ∨ setting = .monitor c.activeMonitor? := by
  have htiming (key : TimingKey) (hmem : setting ∈ timingChange key (c.timing key)) :
      ∃ key, (c.timing key).isUnchanged = false ∧ setting = .timing key (c.timing key) := by
    unfold timingChange at hmem
    split at hmem
    · simp at hmem
    · next hchanged => exact ⟨key, by simpa using hchanged, List.mem_singleton.1 hmem⟩
  unfold plan at h
  rcases List.mem_append.1 h with hmem | hlast
  · rcases List.mem_append.1 hmem with htimes | hfile
    · simp only [List.mem_append, or_assoc] at htimes
      rcases htimes with htotal | hwindow | hdead
      · exact Or.inl (htiming .totalTime htotal)
      · exact Or.inl (htiming .windowTime hwindow)
      · exact Or.inl (htiming .deadtime hdead)
    · split at hfile
      · simp at hfile
      · next hon => exact Or.inr (Or.inl ⟨hon, List.mem_singleton.1 hfile⟩)
  · right
    right
    simpa using hlast

/-- The changes of a configuration set no other prefix than its own, and only with autosave on. -/
lemma filePrefix_of_mem_plan {value : Text} (h : Setting.filePrefix value ∈ c.plan) :
    c.autosave ≠ 0 ∧ value = c.filePrefix := by
  rcases cases_of_mem_plan h with ⟨key, -, htiming⟩ | ⟨hon, hfile⟩ | hautosave | hformat | hmonitor
  · cases htiming
  · exact ⟨hon, Setting.filePrefix.inj hfile⟩
  · cases hautosave
  · cases hformat
  · cases hmonitor

end Configuration

namespace ClientCall

/-- The changes of settings that a call makes. -/
def changes : ClientCall → List Setting
  | set setting => [setting]
  | write configuration => configuration.plan
  | _ => []

open Dialogue

/-- The commands of a typed call are the requests of its changes, and others that change no
setting. -/
lemma asksOnly {Q : Command → Prop} {call : ClientCall} (htyped : call.IsTyped)
    (hQ : ∀ c : Command, c.verb ≠ .set → Q c)
    (hchanges : ∀ setting ∈ call.changes, ∀ c, setting.request = .ok c → Q c) :
    call.dialogue.AsksOnly Q := by
  have hget : Verb.get ≠ .set := by decide
  have hmeasure : Verb.measure ≠ .set := by decide
  cases call
  case raw typed => exact htyped.elim
  case set setting => exact (asksOnly_askFor (hchanges setting (by simp [changes]))).map _
  case timing key => exact (asksOnly_question hQ hget).map _
  case filePrefix => exact (asksOnly_question hQ hget).map _
  case autosave => exact (asksOnly_question hQ hget).map _
  case monitor => exact (asksOnly_question hQ hget).map _
  case agents => exact (asksOnly_question hQ hget).map _
  case startRun length now =>
    have htell : (Dialogue.tell (Command.make .measure "START".toList)).AsksOnly Q :=
      asksOnly_question hQ hmeasure
    have hrun : (Dialogue.startRun length now).AsksOnly Q := htell.bind fun _ _ => trivial
    exact hrun.map _
  case stopRun => exact (asksOnly_question hQ hmeasure).map _
  case status => exact (asksOnly_question hQ hmeasure).map _
  case pollStatus now =>
    have hstatus : (Dialogue.status true).AsksOnly Q := asksOnly_question hQ hmeasure
    have hpoll : (Dialogue.pollStatus now).AsksOnly Q := hstatus.bind fun _ _ => trivial
    exact hpoll.map _
  case measurements => exact (asksOnly_question hQ hmeasure).map _
  case statistics id cumulative => exact (asksOnly_question hQ hmeasure).map _
  case table =>
    have hlist : Dialogue.measurements.AsksOnly Q := asksOnly_question hQ hmeasure
    exact (hlist.bind (asksOnly_withStatistics hQ)).map _
  case save id file =>
    have hsave : (Dialogue.tell (Client.saveRequest id file)).AsksOnly Q := by
      refine asksOnly_askFor fun c hc => hQ c ?_
      have hmake := (Token.require_bind_eq_ok.1 hc).2
      rw [(Command.make_eq_ok hmake).1]
      exact hmeasure
    exact hsave.map _
  case delete id => exact (asksOnly_question hQ hmeasure).map _
  case clear => exact (asksOnly_question hQ hmeasure).map _
  case write configuration =>
    have hcheck : (ofRequest configuration.check).AsksOnly Q := trivial
    exact (hcheck.bind fun _ => asksOnly_makeChanges hchanges).map _
  case read => exact (asksOnly_read hQ).map _

/-- A call other than a typed line that does not set the prefix to the word that stands for none. -/
def SparesNone : ClientCall → Prop
  | raw _ => False
  | set setting => setting ≠ .filePrefix "NONE".toList
  | write c => c.autosave ≠ 0 → c.filePrefix ≠ "NONE".toList
  | _ => True

/-- No change of such a call sets the prefix to the word that stands for none. -/
lemma SparesNone.ne_of_mem_changes {call : ClientCall} (h : call.SparesNone) :
    ∀ setting ∈ call.changes, setting ≠ .filePrefix "NONE".toList := by
  intro setting hsetting
  cases call with
  | set change =>
    obtain rfl := List.mem_singleton.1 hsetting
    exact h
  | write configuration =>
    rintro rfl
    obtain ⟨hon, hvalue⟩ := Configuration.filePrefix_of_mem_plan hsetting
    exact h hon hvalue.symm
  | _ => exact absurd hsetting List.not_mem_nil

/-- The commands of such a call leave the board readable. -/
lemma SparesNone.asksOnly {call : ClientCall} (h : call.SparesNone) :
    call.dialogue.AsksOnly Command.LeavesReadable := by
  have htyped : call.IsTyped := by
    cases call with
    | raw typed => exact h
    | _ => trivial
  exact ClientCall.asksOnly htyped (fun _ => Command.leavesReadable_of_verb)
    fun setting hsetting _ hc =>
      setting.leavesReadable hc (h.ne_of_mem_changes setting hsetting)

end ClientCall

/-! ## Boards that are reached -/

/-- What a call keeps of the board of a client. -/
lemma Client.keeps_perform {P : Board → Prop} {call : ClientCall} {Q : Command → Prop}
    (h : call.dialogue.AsksOnly Q)
    (hQ : ∀ command, Q command → ∀ b now, P b → P (b.handle now command.line).2) :
    Call.Keeps (fun client : Client Connection => client.session.HasBoard P) call.perform := by
  rw [call.perform_eq_follow]
  refine Dialogue.keeps_follow h (fun command silent hcommand client hclient => ?_) ?_
  · exact Session.keeps_execute (hQ command hcommand) silent client.session hclient
  · exact fun change client hclient => hclient

/-- A board that typed calls of clients lead to from one at rest, none of which sets the prefix to
the word that stands for none. The clients come one after the other, and each finds the board
between two lines; what else becomes of a client is left open. Between the calls the agents may
change, and the board may be silenced or made noisy. -/
inductive Board.Reachable : Board → Prop
  | atRest : Reachable .atRest
  | setUp {b : Board} (agents : List Agent) (mute noisy : Bool) : Reachable b →
      Reachable { b with agents := agents, mute := mute, noisy := noisy }
  | call {client : Client Connection} (what : ClientCall) : what.SparesNone →
      client.session.link.unfinished = [] → Reachable client.session.link.board →
      Reachable (what.perform.run client).2.session.link.board

/-- **Reached boards.** Every board that is reached can be read back. -/
theorem Board.Reachable.isReadable {b : Board} (h : b.Reachable) : b.IsReadable := by
  induction h with
  | atRest =>
    refine ⟨fun key => ?_, Or.inl rfl⟩
    cases key
    · exact ⟨"10s".toList, by decide +kernel⟩
    · exact ⟨"20u".toList, by decide +kernel⟩
    · exact ⟨"10u".toList, by decide +kernel⟩
  | setUp agents mute noisy _ ih =>
    refine ⟨fun key => ?_, ih.filePrefix⟩
    have htime := ih.timing key
    cases key <;> exact htime
  | call what hspares hline _ ih =>
    have hkeeps := Client.keeps_perform (P := IsReadable) hspares.asksOnly
      fun command hcommand b now hb => hb.handle hcommand now
    exact (hkeeps _ ⟨hline, ih⟩).2

end TimingBoard
