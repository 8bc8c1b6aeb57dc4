import TimingBoard.Proofs.Client.Configuration
import TimingBoard.Proofs.Client.Tracking
import TimingBoard.Proofs.Session.Refusal

/-!
# What is executed during a call

A call of a client executes commands, one after the other, and each of them has a reply or an error
of its own.  Which commands these are depends on the replies: a table asks for the statistics of the
measurements that were listed, and the changes of a configuration end with the first that fails.

Most calls execute one command, or none when their request is refused.  A request is refused before
anything is executed: a call that executes several commands makes only such requests, after its
first step, as cannot be refused.
-/

namespace TimingBoard

variable {α β σ L : Type}

/-- A command that was executed, and what came of it. -/
structure Executed where
  command : Command
  result : Except Error Reply

namespace Dialogue

/-- The commands that are executed while a dialogue is followed, in order. -/
def executed (executor : Executor σ) : Dialogue α → σ → List Executed
  | stop _, _ => []
  | ask command silent next, s =>
    match (executor.execute command silent).run s with
    | (.ok reply, s) => ⟨command, .ok reply⟩ :: (next reply).executed executor s
    | (.error e, _) => [⟨command, .error e⟩]
  | track change next, s =>
    match (executor.track change).run s with
    | (.ok tracker, s) => (next tracker).executed executor s
    | (.error _, _) => []

variable {executor : Executor σ}

/-- Two dialogues one after the other execute what the first of them does, and then what the second
one does if it is reached. -/
lemma executed_bind (d : Dialogue α) (f : α → Dialogue β) (s : σ) :
    (d >>= f).executed executor s = d.executed executor s ++
      match (d.follow executor).run s with
      | (.ok a, s) => (f a).executed executor s
      | (.error _, _) => [] := by
  change (d.andThen f).executed executor s = _
  induction d generalizing s with
  | stop result => cases result <;> rfl
  | ask command silent next ih =>
    rw [andThen, executed, executed, follow]
    rcases hrun : (executor.execute command silent).run s with ⟨e | reply, s'⟩
    · rw [Call.run_bind_of_error hrun]
      rfl
    · rw [Call.run_bind_of_ok hrun]
      simp only [ih, List.cons_append]
  | track change next ih =>
    rw [andThen, executed, executed, follow]
    rcases hrun : (executor.track change).run s with ⟨e | tracker, s'⟩
    · rw [Call.run_bind_of_error hrun]
      rfl
    · rw [Call.run_bind_of_ok hrun]
      simp only [ih]

/-- What is executed by a dialogue that goes on without commands. -/
lemma executed_bind_of_nil {d : Dialogue α} {f : α → Dialogue β}
    (h : ∀ a s, (f a).executed executor s = []) (s : σ) :
    (d >>= f).executed executor s = d.executed executor s := by
  rw [executed_bind]
  rcases (d.follow executor).run s with ⟨e | a, s'⟩ <;> simp [h]

@[simp] lemma executed_map (f : α → β) (d : Dialogue α) (s : σ) :
    (f <$> d).executed executor s = d.executed executor s :=
  executed_bind_of_nil (fun _ _ => rfl) s

/-- A look at the tracker executes nothing. -/
lemma executed_track {change : RunTracker → RunTracker} {next : RunTracker → Dialogue α}
    (h : ∀ tracker s, (next tracker).executed executor s = []) (s : σ) :
    (track change next).executed executor s = [] := by
  rw [executed]
  rcases (executor.track change).run s with ⟨e | tracker, s'⟩
  · rfl
  · exact h tracker s'

/-- What is executed is asked. -/
lemma AsksOnly.of_mem_executed {Q : Command → Prop} {d : Dialogue α} (h : d.AsksOnly Q) {s : σ}
    {e : Executed} (he : e ∈ d.executed executor s) : Q e.command := by
  induction d generalizing s with
  | stop result => simp [executed] at he
  | ask command silent next ih =>
    rw [executed] at he
    rcases hrun : (executor.execute command silent).run s with ⟨_ | reply, s'⟩
    · rw [hrun, List.mem_singleton] at he
      exact he ▸ h.1
    · rw [hrun] at he
      rcases List.mem_cons.1 he with rfl | hrest
      · exact h.1
      · exact ih reply (h.2 reply) hrest
  | track change next ih =>
    rw [executed] at he
    rcases hrun : (executor.track change).run s with ⟨_ | tracker, s'⟩
    · simp [hrun] at he
    · rw [hrun] at he
      exact ih tracker (h tracker) he

/-- A request executes its command. -/
lemma executed_askFor {request : Except Refusal Command} {command : Command}
    (h : request = .ok command) (silent : Bool) (kind : Reply → Option α) (s : σ) :
    (askFor request silent kind).executed executor s =
      [⟨command, ((executor.execute command silent).run s).1⟩] := by
  have hask : askFor request silent kind = ask command silent fun reply =>
      (kind reply).elim (stop (.error (.unexpectedReply command reply))) pure := by
    rw [h]
    refine congrArg (ask command silent) (funext fun reply => ?_)
    cases kind reply <;> rfl
  rw [hask, executed]
  rcases (executor.execute command silent).run s with ⟨e | reply, s'⟩
  · rfl
  · dsimp only
    cases kind reply <;> rfl

/-- A request executes at most one command. -/
lemma length_executed_askFor_le (request : Except Refusal Command) (silent : Bool)
    (kind : Reply → Option α) (s : σ) :
    ((askFor request silent kind).executed executor s).length ≤ 1 := by
  cases request with
  | error cause => simp [askFor, ofRequest, Except.mapError, executed, bind, andThen]
  | ok command => rw [executed_askFor rfl]; rfl

/-- A start executes its command and then only sets the tracker. -/
lemma executed_startRun (length : TimeText) (now : Instant) (s : σ) :
    (startRun length now).executed executor s =
      (tell (Command.make .measure "START".toList)).executed executor s :=
  executed_bind_of_nil (fun _ => executed_track fun _ _ => rfl) s

/-- A look for the tracker executes what any look at the status does. -/
lemma executed_pollStatus (now : Instant) (s : σ) :
    (pollStatus now).executed executor s = (status true).executed executor s :=
  executed_bind_of_nil (fun _ => executed_track fun _ _ => rfl) s

end Dialogue

/-! ## Calls of one command -/

namespace ClientCall

/-- A call that executes one command at most. -/
def IsSingle : ClientCall → Prop
  | table => False
  | write _ => False
  | read => False
  | _ => True

open Dialogue in
lemma IsSingle.length_executed_le {call : ClientCall} (h : call.IsSingle) {executor : Executor σ}
    (s : σ) : (call.dialogue.executed executor s).length ≤ 1 := by
  cases call
  case startRun length now =>
    rw [dialogue, executed_map, executed_startRun]
    exact length_executed_askFor_le _ _ _ s
  case pollStatus now =>
    rw [dialogue, executed_map, executed_pollStatus]
    exact length_executed_askFor_le _ _ _ s
  case table => exact h.elim
  case write configuration => exact h.elim
  case read => exact h.elim
  all_goals
    rw [dialogue, executed_map]
    exact length_executed_askFor_le _ _ _ s

end ClientCall

/-! ## Refusals -/

namespace Dialogue

/-- A dialogue that does not fail by a refusal. -/
def NeverRefuses : Dialogue α → Prop
  | stop (.error (.refused _)) => False
  | stop _ => True
  | ask _ _ next => ∀ reply, NeverRefuses (next reply)
  | track _ next => ∀ tracker, NeverRefuses (next tracker)

/-- A dialogue that is refused before it does anything, or not at all. -/
def RefusesFirst (d : Dialogue α) : Prop :=
  d.NeverRefuses ∨ ∃ cause, d = stop (.error (.refused cause))

lemma NeverRefuses.bind {d : Dialogue α} {f : α → Dialogue β} (h : d.NeverRefuses)
    (hf : ∀ a, (f a).NeverRefuses) : (d >>= f).NeverRefuses := by
  change (d.andThen f).NeverRefuses
  induction d with
  | stop result =>
    cases result with
    | ok a => exact hf a
    | error e =>
      cases e with
      | refused cause => exact h
      | _ => trivial
  | ask command silent next ih => exact fun reply => ih reply (h reply)
  | track change next ih => exact fun tracker => ih tracker (h tracker)

/-- Only the first of two dialogues can be refused before anything is done. -/
lemma RefusesFirst.bind {d : Dialogue α} {f : α → Dialogue β} (h : d.RefusesFirst)
    (hf : ∀ a, (f a).NeverRefuses) : (d >>= f).RefusesFirst := by
  rcases h with h | ⟨cause, rfl⟩
  · exact Or.inl (h.bind hf)
  · exact Or.inr ⟨cause, rfl⟩

lemma RefusesFirst.map {d : Dialogue α} (h : d.RefusesFirst) (f : α → β) :
    (f <$> d).RefusesFirst :=
  h.bind fun _ => trivial

/-- A request with a command is not refused any more. -/
lemma neverRefuses_askFor {request : Except Refusal Command} {silent : Bool}
    {kind : Reply → Option α} (h : ∃ command, request = .ok command) :
    (askFor request silent kind).NeverRefuses := by
  obtain ⟨command, rfl⟩ := h
  intro reply
  dsimp only
  cases kind reply <;> trivial

lemma refusesFirst_askFor (request : Except Refusal Command) (silent : Bool)
    (kind : Reply → Option α) : (askFor request silent kind).RefusesFirst := by
  cases request with
  | error cause => exact Or.inr ⟨cause, rfl⟩
  | ok command => exact Or.inl (neverRefuses_askFor ⟨command, rfl⟩)

lemma neverRefuses_withStatistics (list : List Measurement) :
    (withStatistics list).NeverRefuses := by
  induction list with
  | nil => trivial
  | cons m rest ih =>
    obtain ⟨command, hcommand, -⟩ := Client.exists_statisticsRequest m.id true
    exact (neverRefuses_askFor ⟨command, hcommand⟩).bind fun _ => ih.bind fun _ => trivial

lemma neverRefuses_makeChanges {changes : List Setting}
    (h : ∀ setting ∈ changes, ∃ command, setting.request = .ok command) :
    (makeChanges changes).NeverRefuses := by
  induction changes with
  | nil => trivial
  | cons change rest ih =>
    exact (neverRefuses_askFor (h change (by simp))).bind fun _ =>
      ih fun setting hsetting => h setting (by simp [hsetting])

end Dialogue

/-- A time that is made is requested. -/
lemma Setting.exists_request_timing {t : TimeText} (h : t.IsMade) (key : TimingKey) :
    ∃ command, (Setting.timing key t).request = .ok command := by
  have hkey : Text.IsOneLine key.word := by cases key <;> decide
  refine Command.exists_make_of_isOneLine .set ?_
  simpa [Text.isLineBreak] using ⟨hkey, h.isOneLine⟩

namespace Configuration

variable {c : Configuration}

/-- The prefix of a configuration that passes its check is a token while autosave is on. -/
lemma isToken_filePrefix_of_check (h : c.check = .ok ()) (hon : c.autosave ≠ 0) :
    Token.isToken c.filePrefix = true := by
  have hne : c.filePrefix ≠ [] := by
    intro hnil
    unfold check at h
    rw [if_pos hon, if_pos hnil] at h
    cases h
  unfold check at h
  rw [if_pos hon] at h
  simp only [if_neg hne] at h
  split at h <;> exact (Token.require_bind_eq_ok.1 h).1

/-- No change of a configuration that passes its check is refused, if its times are made. -/
lemma IsMade.exists_request (hmade : c.IsMade) (hcheck : c.check = .ok ()) :
    ∀ setting ∈ c.plan, ∃ command, setting.request = .ok command := by
  have hdigits (n : Nat) : Text.IsOneLine (Natural.digits n) := Natural.isOneLine_digits n
  intro setting hsetting
  rcases cases_of_mem_plan hsetting with ⟨key, -, rfl⟩ | ⟨hon, rfl⟩ | rfl | rfl | rfl
  · exact Setting.exists_request_timing (hmade key) key
  · exact Setting.exists_request_filePrefix.2 (isToken_filePrefix_of_check hcheck hon)
  · exact Command.exists_make_of_isOneLine .set (Text.isOneLine_append.2 ⟨by decide, hdigits _⟩)
  · exact Command.exists_make_of_isOneLine .set (Text.isOneLine_append.2 ⟨by decide, hdigits _⟩)
  · cases hmonitor : c.activeMonitor? with
    | none => exact Command.exists_make_of_isOneLine .set (by decide)
    | some m => exact Setting.exists_request_monitor.2 (isToken_of_check hcheck m hmonitor)

end Configuration

namespace Dialogue

/-- A configuration whose times are made is refused by its check, or not at all. -/
lemma refusesFirst_write {c : Configuration} (h : c.IsMade) : (write c).RefusesFirst := by
  unfold write
  cases hcheck : c.check with
  | error cause => exact Or.inr ⟨cause, rfl⟩
  | ok _ => exact Or.inl (neverRefuses_makeChanges (h.exists_request hcheck))

lemma neverRefuses_read : read.NeverRefuses := by
  have hget (key : Text) {γ : Type} {kind : Reply → Option γ} (hkey : Text.IsOneLine key) :
      (askFor (Command.make .get key) false kind).NeverRefuses :=
    neverRefuses_askFor (Command.exists_make_of_isOneLine .get hkey)
  have htiming (key : TimingKey) : (timing key).NeverRefuses :=
    hget key.word (by cases key <;> decide)
  exact (htiming _).bind fun _ => (htiming _).bind fun _ => (htiming _).bind fun _ =>
    (hget "PREFIX".toList (by decide)).bind fun _ =>
      (hget "AUTOSAVE".toList (by decide)).bind fun _ =>
        (hget "MONITOR".toList (by decide)).bind fun _ => trivial

/-- Over an executor that refuses nothing, what is not refused at first is not refused later. -/
lemma NeverRefuses.follow {d : Dialogue α} {executor : Executor σ} (h : d.NeverRefuses)
    (hexecute : ∀ command silent, Call.NeverRefuses (executor.execute command silent))
    (htrack : ∀ change, Call.NeverRefuses (executor.track change)) :
    Call.NeverRefuses (d.follow executor) := by
  induction d with
  | stop result =>
    intro s cause hresult
    rw [Dialogue.follow, Call.run_ofExcept] at hresult
    obtain rfl : result = .error (.refused cause) := hresult
    exact h
  | ask command silent next ih =>
    exact (hexecute command silent).bind fun reply => ih reply (h reply)
  | track change next ih => exact (htrack change).bind fun tracker => ih tracker (h tracker)

/-- A dialogue over a session that is refused has done nothing. -/
lemma RefusesFirst.of_refused [Link L] {d : Dialogue α} (h : d.RefusesFirst) {client : Client L}
    {cause : Refusal}
    (hrefused : ((d.follow Client.overSession).run client).1 = .error (.refused cause)) :
    d.executed Client.overSession client = [] ∧
      ((d.follow Client.overSession).run client).2 = client := by
  rcases h with h | ⟨_, rfl⟩
  · refine absurd hrefused (h.follow (fun command silent client cause => ?_) ?_ client cause)
    · exact Session.neverRefuses_execute command silent client.session cause
    · intro change client cause
      simp [Client.overSession, Client.track, Call.run]
  · exact ⟨rfl, rfl⟩

end Dialogue

namespace ClientCall

/-- A call that writes no configuration but one whose times are made. -/
def HasMadeTimes : ClientCall → Prop
  | write configuration => configuration.IsMade
  | _ => True

open Dialogue in
/-- A call is refused before anything is executed, or not at all. -/
lemma HasMadeTimes.refusesFirst {call : ClientCall} (h : call.HasMadeTimes) :
    call.dialogue.RefusesFirst := by
  cases call
  case startRun length now =>
    have hnext : (track (fun tracker => tracker.start length now) fun _ => pure ()).NeverRefuses :=
      fun _ => trivial
    exact ((refusesFirst_askFor _ _ _).bind fun _ => hnext).map _
  case pollStatus now =>
    have hnext (status : Text) : (track (fun tracker => (tracker.observe status now).2)
        fun tracker => pure (tracker.observe status now).1).NeverRefuses := fun _ => trivial
    exact ((refusesFirst_askFor _ _ _).bind hnext).map _
  case table => exact ((refusesFirst_askFor _ _ _).bind neverRefuses_withStatistics).map _
  case write configuration => exact (refusesFirst_write h).map _
  case read => exact RefusesFirst.map (Or.inl neverRefuses_read) _
  all_goals exact (refusesFirst_askFor _ _ _).map _

end ClientCall

end TimingBoard
