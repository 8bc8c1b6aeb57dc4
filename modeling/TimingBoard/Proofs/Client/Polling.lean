import TimingBoard.Client.Poller
import TimingBoard.Proofs.Client.Following
import TimingBoard.Proofs.Client.Written
import TimingBoard.Proofs.Session.Logging

/-!
# What a poller publishes

A poller and the users of its client take turns.  Ticks of the clock, uses of the client, a user who
breaks down while holding the lock, and the moment at which the poller finds that it is to stop:
they come in any order.  Each of them finds the poller and the client in some state and leaves them
in another one.

At a tick a poller that has not ended looks at the status.  It finds the lock poisoned, or makes one
call, and publishes what came of it.  So the events are those of the looks, in their order, and
since a look that fails is the last one, a fault can only be the last event.  A look writes at most
the line that asks for the status, logs nothing, and does to the tracker what its call does.  The
end of a run puts the tracker at rest, and no look gets it running again, so that a run is started
between two of its ends.
-/

namespace TimingBoard

variable {L : Type}

/-! ## Looks -/

/-- A look at the status: when it is made, and the client it finds. -/
structure PollLook (L : Type) where
  now : Instant
  found : SharedClient L

/-- The event in which a result is published. -/
def PollEvent.ofResult : Except PollFault StatusUpdate → PollEvent
  | .ok update => .status update
  | .error fault => .failed fault

/-- The command of a look. -/
def statusCommand : Command :=
  ⟨.measure, "STATUS".toList, by decide, by decide⟩

lemma make_status : Command.make .measure "STATUS".toList = .ok statusCommand := rfl

lemma encode_statusCommand : statusCommand.encode = Text.toUtf8 "MSR STATUS\n".toList := by
  decide +kernel

namespace PollLook

/-- A look through a client whose link is observed from now on. -/
def observed (look : PollLook L) : PollLook (Observed L) :=
  ⟨look.now, ⟨look.found.client.observed, look.found.poisoned⟩⟩

variable [Link L]

/-- What comes of a look: the lock is poisoned, or a call is made. -/
def result (look : PollLook L) : Except PollFault StatusUpdate :=
  if look.found.poisoned then .error .lockPoisoned
  else ((Client.pollStatus look.now).run look.found.client).1.mapError .call

/-- The client as a look leaves it. -/
def left (look : PollLook L) : SharedClient L :=
  if look.found.poisoned then look.found
  else { look.found with client := ((Client.pollStatus look.now).run look.found.client).2 }

/-- The event of a look. -/
def event (look : PollLook L) : PollEvent := .ofResult look.result

/-- Whether a look fails. -/
def fails (look : PollLook L) : Bool := !look.result.isOk

/-- Whether a look finds the end of a run. -/
def findsEnd (look : PollLook L) : Bool := look.result.toOption.any StatusUpdate.finished

/-- The bytes that a look writes. -/
def written (look : PollLook L) : Bytes := look.observed.left.client.session.written

lemma look_eq (look : PollLook L) : Poller.look look.now look.found = (look.event, look.left) := by
  cases hpoisoned : look.found.poisoned with
  | true => simp [Poller.look, event, result, left, hpoisoned, PollEvent.ofResult]
  | false =>
    rcases hrun : (Client.pollStatus look.now).run look.found.client with ⟨e | update, client⟩ <;>
      simp [Poller.look, event, result, left, hpoisoned, hrun, PollEvent.ofResult, Except.mapError]

/-- How a look can go. The lock is poisoned, or the command is executed and gets a status, or it
does not get one. -/
lemma result_cases (look : PollLook L) :
    let client := look.found.client
    let executed := (Session.execute statusCommand true).run client.session
    (look.result = .error .lockPoisoned ∧ look.left = look.found) ∨
      (∃ status, executed.1 = .ok (.status status) ∧
        look.result = .ok (client.tracker.observe status look.now).1 ∧
        look.left.client = ⟨executed.2, (client.tracker.observe status look.now).2⟩) ∨
      ∃ e, look.result = .error (.call e) ∧
        look.left.client = { client with session := executed.2 } := by
  intro client executed
  cases hpoisoned : look.found.poisoned with
  | true => exact Or.inl (by simp [result, left, hpoisoned])
  | false =>
    rcases Client.pollStatus_run_cases make_status look.now client with
      ⟨status, hstatus, hrun⟩ | ⟨e, hrun⟩
    · refine Or.inr (Or.inl ⟨status, hstatus, ?_⟩)
      simp [result, left, hpoisoned, hrun, client, executed, Except.mapError]
    · refine Or.inr (Or.inr ⟨e, ?_⟩)
      simp [result, left, hpoisoned, hrun, client, executed, Except.mapError]

/-- A look that finds the end of a run puts a running tracker at rest, and any other look leaves the
tracker as it is. -/
lemma tracker_left (look : PollLook L) :
    (look.findsEnd = true ∧ look.found.client.tracker.phase = .running ∧
        look.left.client.tracker = .idle) ∨
      (look.findsEnd = false ∧ look.left.client.tracker = look.found.client.tracker) := by
  rcases look.result_cases with ⟨hresult, hleft⟩ | ⟨status, -, hresult, hleft⟩ |
    ⟨e, hresult, hleft⟩
  · exact Or.inr ⟨by simp [findsEnd, hresult, Except.toOption], by rw [hleft]⟩
  · cases hended : look.found.client.tracker.endedBy status with
    | true =>
      refine Or.inl ⟨by simp [findsEnd, hresult, Except.toOption, RunTracker.observe, hended], ?_,
        by simp [hleft, RunTracker.observe, hended]⟩
      exact (by simpa [RunTracker.endedBy] using hended : _ ∧ _).2
    | false =>
      exact Or.inr ⟨by simp [findsEnd, hresult, Except.toOption, RunTracker.observe, hended],
        by simp [hleft, RunTracker.observe, hended]⟩
  · exact Or.inr ⟨by simp [findsEnd, hresult, Except.toOption], by rw [hleft]⟩

/-- A look logs nothing. -/
lemma log_left (look : PollLook L) :
    look.left.client.session.log = look.found.client.session.log := by
  have hsilent := (Session.leavesLog_execute_silent statusCommand).log_run
    look.found.client.session
  rcases look.result_cases with ⟨-, hleft⟩ | ⟨status, -, -, hleft⟩ | ⟨e, -, hleft⟩
  · rw [hleft]
  · rw [hleft]
    exact hsilent
  · rw [hleft]
    exact hsilent

/-- A look comes to the same whether the link is observed or not. -/
lemma result_observed (look : PollLook L) : look.observed.result = look.result := by
  obtain ⟨hwatched, -⟩ := (Dialogue.pollStatus look.now).watches_follow look.found.client.observed
  rw [Dialogue.follow_pollStatus, Dialogue.follow_pollStatus] at hwatched
  have hsame : ((Client.pollStatus look.now).run look.found.client).1 =
      ((Client.pollStatus look.now).run look.found.client.observed).1 := congrArg Prod.fst hwatched
  rw [result, result, hsame]
  rfl

/-- A look writes the line that asks for the status. Only a look that fails may write nothing. -/
lemma written_cases (look : PollLook L) :
    look.written = Text.toUtf8 "MSR STATUS\n".toList ∨
      look.written = [] ∧ ∃ fault, look.result = .error fault := by
  rw [← encode_statusCommand, written, ← look.result_observed]
  have hnothing : look.observed.found.client.session.written = [] := rfl
  have hwritten := Session.written_execute_or statusCommand true look.observed.found.client.session
  rw [hnothing, List.nil_append] at hwritten
  rcases look.observed.result_cases with
    ⟨hresult, hleft⟩ | ⟨status, hstatus, -, hleft⟩ | ⟨e, hresult, hleft⟩
  · rw [hleft]
    exact Or.inr ⟨hnothing, _, hresult⟩
  · rw [hleft]
    -- The command got a reply, so it was written.
    refine Or.inl (hwritten.resolve_right ?_)
    rintro ⟨-, e, herror⟩
    rw [hstatus] at herror
    cases herror
  · rw [hleft]
    exact hwritten.imp_right fun h => ⟨h.1, _, hresult⟩

end PollLook

/-! ## Turns -/

/-- Something that happens while a poller may be running. -/
inductive PollStep (L : Type) where
  | tick (now : Instant)
  /-- A user takes the lock and does something with the client. -/
  | use (what : ClientStep L)
  /-- A user breaks down while holding the lock. -/
  | poison
  /-- The poller finds that it is to stop. -/
  | stop

namespace PollStep

variable [Link L]

/-- What the users do to the client in a step. -/
def byUsers : PollStep L → SharedClient L → SharedClient L
  | use what, shared => { shared with client := (what.perform.run shared.client).2 }
  | poison, shared => { shared with poisoned := true }
  | tick _, shared => shared
  | stop, shared => shared

/-- What happens in a step. -/
def happening : PollStep L → Poller.Happening L
  | tick now => .tick now
  | stop => .stop
  | use what => .user (use what).byUsers
  | poison => .user (poison (L := L)).byUsers

/-- Whether a step is a tick. -/
def isTick : PollStep L → Bool
  | tick _ => true
  | _ => false

/-- Whether the poller is told to stop in a step. -/
def isStop : PollStep L → Bool
  | stop => true
  | _ => false

end PollStep

/-- A step, and the state it finds. -/
structure PollMoment (L : Type) where
  found : Poller.State L
  step : PollStep L

namespace PollMoment

/-- The look that is made in a moment, if any. -/
def look? (moment : PollMoment L) : Option (PollLook L) :=
  match moment.step with
  | .tick now => if moment.found.running then some ⟨now, moment.found.shared⟩ else none
  | _ => none

/-- A look is made at a tick, by a poller that has not ended. -/
lemma isSome_look? (moment : PollMoment L) : moment.look?.isSome = true ↔
    moment.step.isTick = true ∧ moment.found.running = true := by
  obtain ⟨⟨shared, running⟩, step⟩ := moment
  cases step <;> simp [look?, PollStep.isTick]

lemma eq_of_look? {moment : PollMoment L} {look : PollLook L} (h : moment.look? = some look) :
    moment = ⟨⟨look.found, true⟩, .tick look.now⟩ := by
  obtain ⟨⟨shared, running⟩, step⟩ := moment
  cases step with
  | tick now =>
    cases running with
    | true => rw [← Option.some.inj h]
    | false => cases h
  | _ => cases h

variable [Link L]

/-- The event that is published in a moment, if any. -/
def event? (moment : PollMoment L) : Option PollEvent :=
  (Poller.step moment.found moment.step.happening).1

/-- The state in which a moment leaves the poller and the client. -/
def left (moment : PollMoment L) : Poller.State L :=
  (Poller.step moment.found moment.step.happening).2

/-- Whether polling ends in a moment: a look fails, or the poller is told to stop. -/
def endsPolling (moment : PollMoment L) : Bool :=
  moment.step.isStop || moment.look?.any PollLook.fails

/-- Whether the end of a run is found by a look in a moment. -/
def findsEnd (moment : PollMoment L) : Bool :=
  moment.look?.any PollLook.findsEnd

/-- Whether a run is started in a moment. -/
def startsRun (moment : PollMoment L) : Bool :=
  match moment.step with
  | .use what => what.startsRun (what.perform.run moment.found.shared.client).1
  | _ => false

/-- The moments of steps one after the other. -/
def all : Poller.State L → List (PollStep L) → List (PollMoment L)
  | _, [] => []
  | s, step :: rest => ⟨s, step⟩ :: all (left ⟨s, step⟩) rest

/-! ## One moment -/

/-- What happens in a moment. A look is published, and nothing else; the client is changed by the
look, if any, and by its users; and the poller goes on unless polling ends. -/
lemma step_eq (moment : PollMoment L) :
    moment.event? = moment.look?.map PollLook.event ∧
      moment.left = ⟨moment.step.byUsers
        ((moment.look?.map PollLook.left).getD moment.found.shared),
        moment.found.running && !moment.endsPolling⟩ := by
  obtain ⟨⟨shared, running⟩, step⟩ := moment
  cases step with
  | tick now =>
    cases running with
    | false => exact ⟨rfl, rfl⟩
    | true =>
      have hlook := PollLook.look_eq ⟨now, shared⟩
      cases hresult : (PollLook.mk now shared).result <;>
        simp [event?, left, look?, Poller.step, PollStep.happening, hlook, PollLook.event, hresult,
          PollEvent.ofResult, endsPolling, PollStep.isStop, PollLook.fails, PollStep.byUsers,
          Except.isOk, Except.toBool]
  | stop => simp [event?, left, look?, Poller.step, PollStep.happening, PollStep.byUsers,
      endsPolling, PollStep.isStop]
  | use what => simp [event?, left, look?, Poller.step, PollStep.happening, endsPolling,
      PollStep.isStop]
  | poison => simp [event?, left, look?, Poller.step, PollStep.happening, endsPolling,
      PollStep.isStop]

/-- A look leaves the client as it is after the moment. -/
lemma shared_of_look? {moment : PollMoment L} {look : PollLook L} (h : moment.look? = some look) :
    moment.found.shared = look.found ∧ moment.left.shared = look.left := by
  have hleft := congrArg Poller.State.shared moment.step_eq.2
  rw [h, eq_of_look? h] at hleft
  rw [eq_of_look? h]
  exact ⟨rfl, hleft⟩

/-- A run that is followed after a moment was followed before, or is started in it. -/
lemma running_or (moment : PollMoment L)
    (h : moment.left.shared.client.tracker.phase = .running) :
    moment.found.shared.client.tracker.phase = .running ∨ moment.startsRun = true := by
  cases hlook : moment.look? with
  | some look =>
    obtain ⟨hfound, hleft⟩ := shared_of_look? hlook
    rw [hfound]
    rw [hleft] at h
    rcases look.tracker_left with ⟨-, hrunning, -⟩ | ⟨-, hsame⟩
    · exact Or.inl hrunning
    · exact Or.inl (hsame ▸ h)
  | none =>
    obtain ⟨⟨shared, running⟩, step⟩ := moment
    rw [step_eq _ |>.2, hlook] at h
    cases step with
    | use what => exact (ClientStep.tracks_perform what shared.client).running_or h
    | _ => exact Or.inl h

/-- A moment in which the end of a run is found finds the tracker running, and leaves it at rest. -/
lemma of_findsEnd {moment : PollMoment L} (h : moment.findsEnd = true) :
    moment.found.shared.client.tracker.phase = .running ∧
      moment.left.shared.client.tracker = .idle := by
  obtain ⟨look, hlook, hend⟩ := (Option.any_eq_true _ _).1 h
  obtain ⟨hfound, hleft⟩ := shared_of_look? hlook
  rw [hfound, hleft]
  rcases look.tracker_left with ⟨-, hended⟩ | ⟨hnot, -⟩
  · exact hended
  · rw [hnot] at hend
    cases hend

/-! ## All moments -/

section All

variable {s : Poller.State L} {steps : List (PollStep L)} {earlier later : List (PollMoment L)}
  {moment : PollMoment L}

/-- The events of a run are those of its looks. -/
lemma run_eq (s : Poller.State L) (steps : List (PollStep L)) :
    (Poller.run s (steps.map PollStep.happening)).1 =
      ((all s steps).filterMap look?).map PollLook.event := by
  induction steps generalizing s with
  | nil => rfl
  | cons step rest ih =>
    have hevent := (step_eq ⟨s, step⟩).1
    have hrun : (Poller.run s ((step :: rest).map PollStep.happening)).1 =
        (event? ⟨s, step⟩).toList ++
          (Poller.run (left ⟨s, step⟩) (rest.map PollStep.happening)).1 := rfl
    rw [hrun, ih, hevent, all]
    cases hlook : look? ⟨s, step⟩ <;> simp [hlook]

/-- What holds in the beginning and is kept in every moment holds of the state that a moment finds,
and of the moments before it. -/
lemma of_all {P : List (PollMoment L) → Poller.State L → Prop} (hbegin : P [] s)
    (hkeep : ∀ past moment, P past moment.found → P (past ++ [moment]) moment.left)
    (h : all s steps = earlier ++ moment :: later) : P earlier moment.found := by
  induction earlier generalizing s steps P with
  | nil =>
    cases steps with
    | nil => cases h
    | cons step rest =>
      obtain ⟨rfl, -⟩ := List.cons.inj h
      exact hbegin
  | cons first earlier ih =>
    cases steps with
    | nil => cases h
    | cons step rest =>
      obtain ⟨rfl, hrest⟩ := List.cons.inj h
      exact ih (P := fun past => P (⟨s, step⟩ :: past)) (hkeep [] ⟨s, step⟩ hbegin)
        (fun past => hkeep (⟨s, step⟩ :: past)) hrest

/-- The moments after a moment begin with the state that it leaves. -/
lemma exists_all_of_append (h : all s steps = earlier ++ moment :: later) :
    ∃ rest, later = all moment.left rest := by
  induction earlier generalizing s steps with
  | nil =>
    cases steps with
    | nil => cases h
    | cons step rest =>
      obtain ⟨rfl, rfl⟩ := List.cons.inj h
      exact ⟨rest, rfl⟩
  | cons first earlier ih =>
    cases steps with
    | nil => cases h
    | cons step rest => exact ih (List.cons.inj h).2

/-- A poller runs until polling ends. -/
lemma running_iff (h : all s steps = earlier ++ moment :: later) :
    moment.found.running = true ↔
      s.running = true ∧ ∀ past ∈ earlier, past.endsPolling = false := by
  refine of_all (P := fun past state => state.running = true ↔
    s.running = true ∧ ∀ moment ∈ past, moment.endsPolling = false) (by simp) ?_ h
  intro past moment hpast
  rw [moment.step_eq.2, Bool.and_eq_true, hpast, List.forall_mem_append, List.forall_mem_singleton,
    Bool.not_eq_true', and_assoc]

/-- A run that is followed when a moment comes was followed in the beginning, or is started before
it. -/
lemma running_or_of_all (h : all s steps = earlier ++ moment :: later)
    (hrunning : moment.found.shared.client.tracker.phase = .running) :
    s.shared.client.tracker.phase = .running ∨ ∃ past ∈ earlier, past.startsRun = true := by
  refine of_all (P := fun past state => state.shared.client.tracker.phase = .running →
    s.shared.client.tracker.phase = .running ∨ ∃ moment ∈ past, moment.startsRun = true)
    Or.inl ?_ h hrunning
  intro past moment hpast hafter
  rcases moment.running_or hafter with hfound | hstart
  · exact (hpast hfound).imp_right fun ⟨m, hm, hstart⟩ => ⟨m, List.mem_append_left _ hm, hstart⟩
  · exact Or.inr ⟨moment, by simp, hstart⟩

/-- A poller that has ended makes no looks. -/
lemma looks_of_ended (h : s.running = false) : (all s steps).filterMap look? = [] := by
  rw [List.filterMap_eq_nil_iff]
  intro moment hmoment
  obtain ⟨earlier, later, hall⟩ := List.append_of_mem hmoment
  have hrunning : ¬ moment.found.running = true := by simp [running_iff hall, h]
  have hnone := mt moment.isSome_look?.1 fun hlook => hrunning hlook.2
  simpa using hnone

/-- The events of looks are statuses, and at the end possibly a fault. -/
lemma events_of_looks (s : Poller.State L) (steps : List (PollStep L)) :
    ∃ (updates : List StatusUpdate) (fault? : Option PollFault),
      ((all s steps).filterMap look?).map PollLook.event =
        updates.map .status ++ (fault?.map .failed).toList := by
  induction steps generalizing s with
  | nil => exact ⟨[], none, rfl⟩
  | cons step rest ih =>
    obtain ⟨updates, fault?, hrest⟩ := ih (left ⟨s, step⟩)
    cases hlook : look? ⟨s, step⟩ with
    | none => exact ⟨updates, fault?, by rw [all, List.filterMap_cons_none hlook, hrest]⟩
    | some look =>
      rw [all, List.filterMap_cons_some hlook, List.map_cons, PollLook.event]
      cases hresult : look.result with
      | ok update => exact ⟨update :: updates, fault?, by rw [hrest]; rfl⟩
      | error fault =>
        -- The look fails, and ends polling.
        have hended : (left ⟨s, step⟩).running = false := by
          rw [step_eq _ |>.2]
          simp [endsPolling, hlook, PollLook.fails, hresult, Except.isOk, Except.toBool]
        exact ⟨[], some fault, by rw [looks_of_ended hended]; rfl⟩

/-- **The events of a poller.** A poller begins to look through a client over any link, in whatever
state that is, and ticks, uses of the client, a poisoned lock and the end of polling come in any
order. What is published are statuses, and at the end possibly a fault. There is one event for each
look, in their order: the outcome of its call, or the poisoned lock. The client is changed by looks
and by users only. A look logs nothing and writes the line that asks for the status, or nothing if
it fails. A look is made at each tick until one fails or the poller is told to stop, and none after
that. Between two looks that find the end of a run, a start has succeeded. -/
theorem events_of_run (shared : SharedClient L) (steps : List (PollStep L)) :
    let begun : Poller.State L := ⟨shared, true⟩
    let events := (Poller.run begun (steps.map PollStep.happening)).1
    let moments := all begun steps
    let looks := moments.filterMap look?
    (∃ (updates : List StatusUpdate) (fault? : Option PollFault),
      events = updates.map .status ++ (fault?.map .failed).toList) ∧
    events = looks.map PollLook.event ∧
    (∀ moment ∈ moments, moment.left.shared =
      moment.step.byUsers ((moment.look?.map PollLook.left).getD moment.found.shared)) ∧
    (∀ look ∈ looks, look.left.client.session.log = look.found.client.session.log ∧
      (look.written = Text.toUtf8 "MSR STATUS\n".toList ∨
        look.written = [] ∧ ∃ fault, look.result = .error fault)) ∧
    (∀ earlier moment later, moments = earlier ++ moment :: later →
      (moment.look?.isSome = true ↔
        moment.step.isTick = true ∧ ∀ past ∈ earlier, past.endsPolling = false)) ∧
    ∀ earlier first middle last later, moments = earlier ++ first :: (middle ++ last :: later) →
      first.findsEnd = true → last.findsEnd = true → ∃ moment ∈ middle,
        moment.startsRun = true := by
  intro begun events moments looks
  have hevents : events = looks.map PollLook.event := run_eq begun steps
  refine ⟨?_, hevents, fun moment _ => congrArg Poller.State.shared moment.step_eq.2,
    fun look _ => ⟨look.log_left, look.written_cases⟩, ?_, ?_⟩
  · rw [hevents]
    exact events_of_looks begun steps
  · intro earlier moment later hsplit
    have hrunning := running_iff hsplit
    rw [moment.isSome_look?, hrunning]
    simp [begun]
  · intro earlier first middle last later hsplit hfirst hlast
    -- The first end put the tracker at rest, and the last one found it running again.
    obtain ⟨rest, hafter⟩ := exists_all_of_append hsplit
    refine (running_or_of_all hafter.symm (of_findsEnd hlast).1).resolve_left ?_
    rw [(of_findsEnd hfirst).2]
    exact fun h => nomatch h

end All

/-- The end of a run is found, another run is started and its end is found as well. Then the server
says no more: a look fails, and the tick after it passes. -/
theorem events_of_run_restarted :
    let told := ClientStep.sessionTold <|
      "ACK\r\nMSR STATUS IDLE\r\nACK\r\n" ++ "MSR STATUS RUNNING\r\nMSR STATUS IDLE\r\n"
    let start : PollStep Script := .use (.call (.startRun ⟨"10".toList, some .seconds⟩ ⟨0⟩))
    let steps := [start, .tick ⟨1⟩, start, .tick ⟨2⟩, .tick ⟨3⟩, .tick ⟨4⟩, .tick ⟨5⟩, .stop]
    let begun : Poller.State Script := ⟨⟨.ofSession told, false⟩, true⟩
    let moments := all begun steps
    (∃ (updates : List StatusUpdate) (fault? : Option PollFault),
      (Poller.run begun (steps.map PollStep.happening)).1 =
        updates.map .status ++ (fault?.map .failed).toList) ∧
    moments.map (fun moment => moment.event?.isSome) =
      [false, true, false, true, true, true, false, false] ∧
    moments.map findsEnd = [false, true, false, false, true, false, false, false] ∧
    moments.map endsPolling = [false, false, false, false, false, true, false, true] ∧
    ∃ moment ∈ (moments.drop 2).take 2, moment.startsRun = true := by
  intro told start steps begun moments
  obtain ⟨hshape, -, -, -, -, hbetween⟩ := events_of_run begun.shared steps
  refine ⟨hshape, by decide +kernel, by decide +kernel, by decide +kernel, ?_⟩
  exact hbetween (moments.take 1) _ _ _ (moments.drop 5) rfl (by decide +kernel) (by decide +kernel)

end PollMoment

end TimingBoard
