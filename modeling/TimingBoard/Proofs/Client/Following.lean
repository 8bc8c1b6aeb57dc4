import TimingBoard.Proofs.Client.Executed

/-!
# What moves the tracker

A client does not ask the board what its tracker should show.  The tracker is moved by two calls
only: a start that is accepted sets it going, and a look at the status takes note of the status,
which ends what is followed if it is exactly the word for an idle board.  Everything else leaves it
as it is, be it answered or not, and so do these two when they fail; what is done with the session
itself does not even reach it.

One step says all of this, and every step keeps the tracker in one of two forms: at rest, or running
since a known moment.  From the steps follow the runs.  Between two ends of a run that were found
there was a start.  And a start that the board has accepted is followed until the board is found
idle, but only if it was asked for as a start: when it came in a typed line, the tracker does not
learn of it.
-/

namespace TimingBoard

variable {L : Type}

/-! ## Steps -/

/-- Something that is done with a client: one of its calls, or anything with its session. -/
inductive ClientStep (L : Type) where
  | call (what : ClientCall)
  | session (change : Session L → Session L)

namespace ClientStep

/-- The call of a step. -/
def perform [Link L] : ClientStep L → Call (Client L) Answer
  | call what => what.perform
  | session change => fun client => (.ok .done, { client with session := change client.session })

/-- Whether a step starts a run that is followed. -/
def startsRun : ClientStep L → Except Error Answer → Bool
  | call (.startRun _ _), .ok _ => true
  | _, _ => false

/-- Whether a step finds the board idle. -/
def findsIdle : ClientStep L → Except Error Answer → Bool
  | call (.pollStatus _), .ok (.update update) => update.status = statusIdle
  | _, _ => false

/-- Whether a step finds the end of a run. -/
def findsEnd : ClientStep L → Except Error Answer → Bool
  | call (.pollStatus _), .ok (.update update) => update.finished
  | _, _ => false

lemma exists_of_startsRun {step : ClientStep L} {result : Except Error Answer}
    (h : step.startsRun result = true) :
    ∃ length now answer, step = call (.startRun length now) ∧ result = .ok answer := by
  unfold startsRun at h
  split at h
  · exact ⟨_, _, _, rfl, rfl⟩
  · cases h

lemma exists_of_findsEnd {step : ClientStep L} {result : Except Error Answer}
    (h : step.findsEnd result = true) :
    ∃ now update, step = call (.pollStatus now) ∧ result = .ok (.update update) ∧
      update.finished = true := by
  unfold findsEnd at h
  split at h
  · exact ⟨_, _, rfl, rfl, h⟩
  · cases h

/-- Whether a step is one of the two that can move the tracker, and was answered. -/
def mayMove : ClientStep L → Except Error Answer → Bool
  | call (.startRun _ _), .ok _ => true
  | call (.pollStatus _), .ok _ => true
  | _, _ => false

/-- What becomes of the tracker in a step. -/
inductive Tracks (step : ClientStep L) (result : Except Error Answer) (t t' : RunTracker) : Prop
  | started (length : TimeText) (now : Instant) : step = call (.startRun length now) →
      result = .ok .done → t' = t.start length now → Tracks step result t t'
  | looked (status : Text) (now : Instant) : step = call (.pollStatus now) →
      result = .ok (.update (t.observe status now).1) → t' = (t.observe status now).2 →
      Tracks step result t t'
  | left : step.mayMove result = false → t' = t → Tracks step result t t'

section Perform

variable [Link L]

/-- A start that succeeds sets the tracker going, and one that fails leaves it. -/
lemma tracks_startRun {step : ClientStep L} {length : TimeText} {now : Instant}
    (h : step = call (.startRun length now)) (client : Client L) :
    Tracks step (step.perform.run client).1 client.tracker
      (step.perform.run client).2.tracker := by
  subst h
  have htell : ((Client.tell (Command.make .measure "START".toList)).run client).2.tracker =
      client.tracker := by
    rw [← Dialogue.follow_tell]
    exact (Dialogue.leavesTracker_askFor _ _ _).tracker_follow client
  rcases hrun : (Client.tell (Command.make .measure "START".toList)).run client with
    ⟨e | ⟨⟩, client'⟩
  all_goals rw [hrun] at htell
  · have hstart : (Client.startRun length now).run client = (.error e, client') :=
      Call.run_bind_of_error hrun
    rw [perform, ClientCall.perform, Call.run_map, hstart]
    exact .left rfl htell
  · have hstart : (Client.startRun length now).run client =
        (.ok (), { client' with tracker := client'.tracker.start length now }) :=
      Call.run_bind_of_ok hrun
    rw [perform, ClientCall.perform, Call.run_map, hstart, ← htell]
    exact .started length now rfl rfl rfl

/-- A look that is answered takes note of the status, and one that fails leaves the tracker. -/
lemma tracks_pollStatus {step : ClientStep L} {now : Instant} (h : step = call (.pollStatus now))
    (client : Client L) :
    Tracks step (step.perform.run client).1 client.tracker
      (step.perform.run client).2.tracker := by
  subst h
  have hline : Text.IsOneLine "STATUS".toList := by decide
  obtain ⟨c, hmake⟩ := Command.exists_make_of_isOneLine .measure hline
  rw [perform, ClientCall.perform, Call.run_map]
  rcases Client.pollStatus_run_cases hmake now client with ⟨status, -, hrun⟩ | ⟨e, hrun⟩
  · rw [hrun]
    exact .looked status now rfl rfl rfl
  · rw [hrun]
    exact .left rfl rfl

/-- What a step does to the tracker. -/
theorem tracks_perform (step : ClientStep L) (client : Client L) :
    Tracks step (step.perform.run client).1 client.tracker (step.perform.run client).2.tracker := by
  cases step with
  | call what =>
    by_cases hplain : what.IsPlain
    · refine .left ?_ ?_
      · cases what <;> first | rfl | exact hplain.elim
      · rw [perform, what.perform_eq_follow]
        exact hplain.leavesTracker.tracker_follow client
    · cases what
      case startRun => exact tracks_startRun rfl client
      case pollStatus => exact tracks_pollStatus rfl client
      all_goals exact absurd trivial hplain
  | session change => exact .left rfl rfl

end Perform

/-! ## What a step keeps -/

section Tracks

variable {step : ClientStep L} {result : Except Error Answer} {t t' : RunTracker}

/-- A step that neither starts a run nor finds the end of one leaves the tracker alone. -/
lemma Tracks.eq_of_not (h : Tracks step result t t') (hstart : step.startsRun result = false)
    (hend : step.findsEnd result = false) : t' = t := by
  cases h with
  | started length now hstep hresult _ => simp [hstep, hresult, startsRun] at hstart
  | looked status now hstep hresult hafter =>
    have hunended : t.endedBy status = false := by
      simpa [hstep, hresult, findsEnd, RunTracker.observe] using hend
    rw [hafter, RunTracker.observe, hunended]
    rfl
  | left _ hafter => exact hafter

/-- A step that fails leaves the tracker alone. -/
lemma Tracks.eq_of_error {e : Error} (h : Tracks step (.error e) t t') : t' = t := by
  cases h with
  | started length now _ hresult _ => cases hresult
  | looked status now _ hresult _ => cases hresult
  | left _ hafter => exact hafter

/-- A start that succeeds sets the tracker going. -/
lemma Tracks.eq_of_start {length : TimeText} {now : Instant} {answer : Answer}
    (h : Tracks (.call (.startRun length now) : ClientStep L) (.ok answer) t t') :
    t' = ⟨.running, length.countdownSeconds, some now⟩ := by
  cases h with
  | started length' now' hstep _ hafter =>
    obtain ⟨rfl, rfl⟩ := ClientCall.startRun.inj (call.inj hstep)
    exact hafter
  | looked status now' hstep _ _ => cases hstep
  | left hmay _ => cases hmay

/-- A look that is answered tells the status and whether it ended what was followed. -/
lemma Tracks.of_look {now : Instant} {update : StatusUpdate}
    (h : Tracks (.call (.pollStatus now) : ClientStep L) (.ok (.update update)) t t') :
    (update.finished = true ↔ update.status = statusIdle ∧ t.phase = .running) ∧
      (update.finished = true → t' = .idle) := by
  cases h with
  | started length now' hstep _ _ => cases hstep
  | looked status now' hstep hresult hafter =>
    obtain rfl : now = now' := ClientCall.pollStatus.inj (call.inj hstep)
    obtain rfl : update = (t.observe status now).1 :=
      Answer.update.inj (Except.ok.inj hresult)
    refine ⟨by simp [RunTracker.observe, RunTracker.endedBy], fun hfinished => ?_⟩
    have hended : t.endedBy status = true := hfinished
    rw [hafter, RunTracker.observe, hended]
    rfl
  | left hmay _ => cases hmay

/-- A step that finds the end of a run finds the board idle, and ends what was followed. -/
lemma Tracks.of_findsEnd (h : Tracks step result t t') (hend : step.findsEnd result = true) :
    step.findsIdle result = true ∧ t.phase = .running ∧ t' = .idle := by
  obtain ⟨now, update, rfl, rfl, hfinished⟩ := exists_of_findsEnd hend
  obtain ⟨hiff, hafter⟩ := h.of_look
  obtain ⟨hidle, hrunning⟩ := hiff.1 hfinished
  exact ⟨decide_eq_true hidle, hrunning, hafter hfinished⟩

/-- What is followed after a step was followed before, or is started by it. -/
lemma Tracks.running_or (h : Tracks step result t t') (hafter : t'.phase = .running) :
    t.phase = .running ∨ step.startsRun result = true := by
  cases hstart : step.startsRun result with
  | true => exact Or.inr rfl
  | false =>
    cases hend : step.findsEnd result with
    | true => exact Or.inl (h.of_findsEnd hend).2.1
    | false => exact Or.inl (h.eq_of_not hstart hend ▸ hafter)

/-- What is followed before a step, or started by it, is followed after it unless the board is found
idle. -/
lemma Tracks.running_of (h : Tracks step result t t') (hidle : step.findsIdle result = false)
    (hbefore : t.phase = .running ∨ step.startsRun result = true) : t'.phase = .running := by
  cases hstart : step.startsRun result with
  | true =>
    obtain ⟨length, now, answer, rfl, rfl⟩ := exists_of_startsRun hstart
    rw [h.eq_of_start]
  | false =>
    cases hend : step.findsEnd result with
    | true => simp [(h.of_findsEnd hend).1] at hidle
    | false =>
      rw [h.eq_of_not hstart hend]
      exact hbefore.resolve_right (by simp [hstart])

end Tracks

end ClientStep

/-- A tracker at rest, or running since a known moment. -/
def RunTracker.IsSound (t : RunTracker) : Prop :=
  t = .idle ∨ t.phase = .running ∧ t.startedAt.isSome = true

namespace RunTracker

variable {t : RunTracker}

lemma IsSound.running_iff (h : t.IsSound) : t.phase = .running ↔ t.startedAt.isSome = true := by
  rcases h with rfl | ⟨hphase, hstarted⟩
  · simp [idle]
  · exact iff_of_true hphase hstarted

/-- A sound tracker without a run shows nothing of one. -/
lemma IsSound.eq_idle (h : t.IsSound) (hphase : t.phase = .idle) : t = .idle := by
  rcases h with h | ⟨hrunning, -⟩
  · exact h
  · simp [hrunning] at hphase

end RunTracker

namespace ClientStep

/-- Every step keeps a tracker sound. -/
lemma Tracks.isSound {step : ClientStep L} {result : Except Error Answer} {t t' : RunTracker}
    (h : Tracks step result t t') (ht : t.IsSound) : t'.IsSound := by
  cases hstart : step.startsRun result with
  | true =>
    obtain ⟨length, now, answer, rfl, rfl⟩ := exists_of_startsRun hstart
    rw [h.eq_of_start]
    exact Or.inr ⟨rfl, rfl⟩
  | false =>
    cases hend : step.findsEnd result with
    | true => exact Or.inl (h.of_findsEnd hend).2.2
    | false => rwa [h.eq_of_not hstart hend]

/-! ## Runs -/

section Runs

variable [Link L] {client : Client L} {steps : List (ClientStep L)}

lemma isSound_runAll (steps : List (ClientStep L)) (h : client.tracker.IsSound) :
    (Call.runAll perform steps client).2.tracker.IsSound :=
  Call.keeps_runAll (P := fun client => client.tracker.IsSound) perform
    (fun step client => (tracks_perform step client).isSound) steps h

/-- What is followed after all steps was followed before, or is started by one of them. -/
lemma running_or_of_runAll
    (h : (Call.runAll perform steps client).2.tracker.phase = .running) :
    client.tracker.phase = .running ∨
      ∃ pair ∈ steps.zip (Call.runAll perform steps client).1, pair.1.startsRun pair.2 = true := by
  induction steps generalizing client with
  | nil => exact Or.inl h
  | cons step rest ih =>
    rw [Call.runAll_cons] at h ⊢
    rw [List.zip_cons_cons]
    rcases ih h with hnext | ⟨pair, hpair, hstart⟩
    · rcases (tracks_perform step client).running_or hnext with hbefore | hstart
      · exact Or.inl hbefore
      · exact Or.inr ⟨_, List.mem_cons_self, hstart⟩
    · exact Or.inr ⟨pair, List.mem_cons_of_mem _ hpair, hstart⟩

/-- What is followed before all steps, or started by one of them, is followed after them unless one
of them finds the board idle. -/
lemma running_runAll
    (hidle : ∀ pair ∈ steps.zip (Call.runAll perform steps client).1,
      pair.1.findsIdle pair.2 = false)
    (h : client.tracker.phase = .running ∨
      ∃ pair ∈ steps.zip (Call.runAll perform steps client).1, pair.1.startsRun pair.2 = true) :
    (Call.runAll perform steps client).2.tracker.phase = .running := by
  induction steps generalizing client with
  | nil => simpa using h
  | cons step rest ih =>
    rw [Call.runAll_cons] at hidle h ⊢
    rw [List.zip_cons_cons, List.forall_mem_cons] at hidle
    rw [List.zip_cons_cons, List.exists_mem_cons_iff, ← or_assoc] at h
    exact ih hidle.2 (h.imp_left ((tracks_perform step client).running_of hidle.1))

/-- **How the tracker moves.** A client begins without a run over any link, and anything is done
with it and with its session. Its tracker is then running exactly if it knows since when, and at
rest it has no length and no countdown. A start that succeeds sets it going, with the length and the
moment of the start. A look at the status that is answered finds the end of a run exactly if the
status is the word for an idle board and the tracker was running, and puts it at rest then. Nothing
else changes the tracker, and no call that fails does. Between two ends of a run that are found
there is a start that succeeded. -/
theorem moves_of_runAll (session : Session L) (earlier : List (ClientStep L))
    (step : ClientStep L) :
    let before := (Call.runAll perform earlier (.ofSession session)).2
    let result := (step.perform.run before).1
    let after := (step.perform.run before).2
    (before.tracker.phase = .running ↔ before.tracker.startedAt.isSome = true) ∧
    (before.tracker.phase = .idle → before.tracker.duration = .zero ∧
      ∀ now, before.tracker.countdown now = .inactive) ∧
    (∀ length now answer, step = call (.startRun length now) → result = .ok answer →
      after.tracker = ⟨.running, length.countdownSeconds, some now⟩) ∧
    (∀ now update, step = call (.pollStatus now) → result = .ok (.update update) →
      (update.finished = true ↔ update.status = statusIdle ∧ before.tracker.phase = .running) ∧
      (update.finished = true → after.tracker = .idle)) ∧
    (step.startsRun result = false → step.findsEnd result = false →
      after.tracker = before.tracker) ∧
    (∀ e, result = .error e → after.tracker = before.tracker) ∧
    ∀ (middle : List (ClientStep L)) (last : ClientStep L),
      let between := Call.runAll perform middle after
      step.findsEnd result = true → last.findsEnd (last.perform.run between.2).1 = true →
        ∃ pair ∈ middle.zip between.1, pair.1.startsRun pair.2 = true := by
  intro before result after
  have hsound : before.tracker.IsSound := isSound_runAll earlier (Or.inl rfl)
  have htracks : Tracks step result before.tracker after.tracker := tracks_perform step before
  refine ⟨hsound.running_iff, fun hphase => ?_, fun length now answer hstep hresult => ?_,
    fun now update hstep hresult => ?_, htracks.eq_of_not, fun e hresult => ?_, ?_⟩
  · rw [hsound.eq_idle hphase]
    exact ⟨rfl, fun _ => rfl⟩
  · rw [hstep, hresult] at htracks
    exact htracks.eq_of_start
  · rw [hstep, hresult] at htracks
    exact htracks.of_look
  · rw [hresult] at htracks
    exact htracks.eq_of_error
  · intro middle last between hend hlast
    -- The first end put the tracker at rest, and the last one found it running again.
    have hrest : after.tracker = .idle := (htracks.of_findsEnd hend).2.2
    have hrunning : between.2.tracker.phase = .running :=
      ((tracks_perform last between.2).of_findsEnd hlast).2.1
    refine (running_or_of_runAll hrunning).resolve_left ?_
    rw [hrest]
    exact fun h => nomatch h

end Runs

/-- A session with a script of what the server answers. -/
def sessionTold (answers : String) : Session Script :=
  ⟨.ofChunks [Text.toUtf8 answers.toList], .empty, Session.defaultWait, true, .empty⟩

/-- The end of a run is found once, and once more after the next start. -/
theorem moves_of_runAll_restarted :
    let told := sessionTold <|
      "ACK\r\nMSR STATUS IDLE\r\nMSR STATUS IDLE\r\n" ++ "ACK\r\nMSR STATUS IDLE\r\n"
    let start := call (.startRun ⟨"10".toList, some .seconds⟩ ⟨0⟩)
    let look := call (.pollStatus ⟨1⟩)
    let before := (Call.runAll perform [start] (.ofSession told)).2
    let result := (look.perform.run before).1
    let after := (look.perform.run before).2
    let middle := [look, session fun s => { s with log := .empty }, start]
    let between := Call.runAll perform middle after
    before.tracker.phase = .running ∧ look.findsEnd result = true ∧ after.tracker = .idle ∧
      look.findsEnd (look.perform.run between.2).1 = true ∧
      ∃ pair ∈ middle.zip between.1, pair.1.startsRun pair.2 = true := by
  intro told start look before result after middle between
  have hrunning : before.tracker.phase = .running := by decide +kernel
  have hend : look.findsEnd result = true := by decide +kernel
  have hagain : look.findsEnd (look.perform.run between.2).1 = true := by decide +kernel
  obtain ⟨-, -, -, hlook, -, -, hbetween⟩ := moves_of_runAll told [start] look
  obtain ⟨now, update, hstep, hresult, hfinished⟩ := exists_of_findsEnd hend
  exact ⟨hrunning, hend, (hlook now update hstep hresult).2 hfinished, hagain,
    hbetween middle look hend hagain⟩

end ClientStep

/-! ## Starts that are accepted -/

/-- A command that starts a run. -/
def Command.IsStart (c : Command) : Prop :=
  c.verb = .measure ∧ c.argument = "START".toList

instance (c : Command) : Decidable c.IsStart :=
  inferInstanceAs (Decidable (_ ∧ _))

lemma Command.IsStart.startCount {c : Command} (h : c.IsStart) : c.startCount = 1 :=
  if_pos ⟨h.1, by rw [h.2]; rfl⟩

namespace ClientStep

variable [Link L]

/-- The commands that a client executes in a step. -/
def executed (client : Client L) : ClientStep L → List Executed
  | call what => what.dialogue.executed Client.overSession client
  | session _ => []

/-- A step in which a start is accepted. -/
def AcceptsStart (client : Client L) (step : ClientStep L) : Prop :=
  ∃ e ∈ step.executed client, e.command.IsStart ∧ e.result = .ok .ack

instance (client : Client L) (step : ClientStep L) : Decidable (step.AcceptsStart client) :=
  inferInstanceAs (Decidable (∃ e ∈ step.executed client, e.command.IsStart ∧ e.result = .ok .ack))

variable {client : Client L} {step : ClientStep L}

/-- A start is sent by a call for it, or in a typed line. -/
lemma AcceptsStart.cases (h : step.AcceptsStart client) :
    (∃ typed, step = call (.raw typed)) ∨ ∃ length now, step = call (.startRun length now) := by
  obtain ⟨e, he, hstart, -⟩ := h
  cases step with
  | session change => cases he
  | call what =>
    have hcount : what.startCount ≠ 0 := fun hzero => by
      have hnone := (hzero ▸ what.startsAtMost_startCount).asksOnly.of_mem_executed he
      simp [hstart.startCount] at hnone
    cases what
    case raw typed => exact Or.inl ⟨typed, rfl⟩
    case startRun length now => exact Or.inr ⟨length, now, rfl⟩
    all_goals exact absurd rfl hcount

/-- A step in which a start is accepted does not ask for the status. -/
lemma AcceptsStart.findsIdle (h : step.AcceptsStart client) (result : Except Error Answer) :
    step.findsIdle result = false := by
  rcases h.cases with ⟨typed, rfl⟩ | ⟨length, now, rfl⟩ <;> rfl

/-- A call for a start succeeds when it is accepted. -/
lemma AcceptsStart.startsRun {length : TimeText} {now : Instant}
    (h : (call (.startRun length now) : ClientStep L).AcceptsStart client) :
    (call (.startRun length now) : ClientStep L).startsRun
      ((perform (call (.startRun length now))).run client).1 = true := by
  obtain ⟨e, he, hstart, haccepted⟩ := h
  have hline : Text.IsOneLine "START".toList := by decide
  obtain ⟨c, hc⟩ := Command.exists_make_of_isOneLine .measure hline
  rw [executed, ClientCall.dialogue, Dialogue.executed_map, Dialogue.executed_startRun,
    Dialogue.tell, Dialogue.executed_askFor hc, List.mem_singleton] at he
  rcases hrun : (Client.overSession.execute c false).run client with ⟨result, client'⟩
  obtain rfl : result = .ok .ack := by rw [← haccepted, he, hrun]
  have htell : (Client.tell (Command.make .measure "START".toList)).run client =
      (.ok (), client') := Client.ask_run_of_ok hc hrun rfl
  have hstarted : ((Client.startRun length now).run client).1 = .ok () :=
    congrArg Prod.fst (Call.run_bind_of_ok htell)
  rw [perform, ClientCall.perform, Call.run_map, hstarted]
  rfl

/-- **When an accepted start is followed.** A client begins without a run over any link, and
anything is done with it and with its session. Then the board accepts a start, and is not found idle
from there on. What is sent is a call for a start, or a typed line. The tracker is running in the
end, and knows since when, exactly if it was a call, if the tracker was running before, or if a
later start succeeds: a typed start is not followed. -/
theorem follows_iff_of_acceptsStart (session : Session L) (earlier : List (ClientStep L))
    (step : ClientStep L) (later : List (ClientStep L)) :
    let before := (Call.runAll perform earlier (.ofSession session)).2
    let results := (Call.runAll perform later (step.perform.run before).2).1
    let after := (Call.runAll perform later (step.perform.run before).2).2
    step.AcceptsStart before →
    (∀ pair ∈ later.zip results, pair.1.findsIdle pair.2 = false) →
      ((∃ typed, step = call (.raw typed)) ∨ ∃ length now, step = call (.startRun length now)) ∧
      (after.tracker.phase = .running ∧ after.tracker.startedAt.isSome = true ↔
        (∃ length now, step = call (.startRun length now)) ∨ before.tracker.phase = .running ∨
          ∃ pair ∈ later.zip results, pair.1.startsRun pair.2 = true) := by
  intro before results after haccepts hidle
  have htracks : Tracks step (step.perform.run before).1 before.tracker
      (step.perform.run before).2.tracker := tracks_perform step before
  have hbefore : before.tracker.IsSound := isSound_runAll earlier (Or.inl rfl)
  have hsound : after.tracker.IsSound := isSound_runAll later (htracks.isSound hbefore)
  refine ⟨haccepts.cases, ?_⟩
  rw [and_iff_left_of_imp hsound.running_iff.1]
  constructor
  · intro hrunning
    rcases running_or_of_runAll hrunning with hnext | hlater
    · rcases htracks.running_or hnext with hrunning | hstart
      · exact Or.inr (Or.inl hrunning)
      · obtain ⟨length, now, answer, hstep, -⟩ := exists_of_startsRun hstart
        exact Or.inl ⟨length, now, hstep⟩
    · exact Or.inr (Or.inr hlater)
  · have hnext := htracks.running_of (haccepts.findsIdle _)
    rintro (⟨length, now, rfl⟩ | hrunning | hlater)
    · exact running_runAll hidle (Or.inl (hnext (Or.inr haccepts.startsRun)))
    · exact running_runAll hidle (Or.inl (hnext (Or.inl hrunning)))
    · exact running_runAll hidle (Or.inr hlater)

/-- A server that accepts two starts, and is running then. -/
def runningSession : Session Script :=
  sessionTold "ACK\r\nACK\r\nMSR STATUS RUNNING\r\n"

/-- A start that is typed while a run is followed changes nothing of what is followed. -/
theorem follows_iff_of_acceptsStart_runningSession :
    let earlier := [call (.startRun ⟨"10".toList, some .seconds⟩ ⟨0⟩)]
    let step := call (.raw " MSR  START ".toList)
    let later := [call (.pollStatus ⟨1⟩)]
    let before := (Call.runAll perform earlier (.ofSession runningSession)).2
    let results := (Call.runAll perform later (step.perform.run before).2).1
    let after := (Call.runAll perform later (step.perform.run before).2).2
    step.AcceptsStart before ∧ (∀ pair ∈ later.zip results, pair.1.findsIdle pair.2 = false) ∧
      before.tracker.phase = .running ∧
      after.tracker.phase = .running ∧ after.tracker.startedAt.isSome = true := by
  intro earlier step later before results after
  have haccepts : step.AcceptsStart before := by decide +kernel
  have hidle : ∀ pair ∈ later.zip results, pair.1.findsIdle pair.2 = false := by decide +kernel
  have hrunning : before.tracker.phase = .running := by decide +kernel
  have hfollows :=
    (follows_iff_of_acceptsStart runningSession earlier step later haccepts hidle).2
  exact ⟨haccepts, hidle, hrunning, hfollows.2 (Or.inr (Or.inl hrunning))⟩

/-- A start that is typed and accepted is not followed. -/
theorem not_follows_typedStart :
    let client := Client.ofSession (sessionTold "ACK\r\n")
    let step := call (.raw "MSR START".toList)
    step.AcceptsStart client ∧ (step.perform.run client).2.tracker.phase = .idle ∧
      (step.perform.run client).2.tracker.startedAt = none := by
  intro client step
  exact ⟨by decide +kernel, by decide +kernel, by decide +kernel⟩

end ClientStep

end TimingBoard
