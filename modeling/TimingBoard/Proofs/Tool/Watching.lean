import TimingBoard.Proofs.Client.Polling
import TimingBoard.Tool.Watch

/-!
# What a watch reports

A watch has its client for itself: ticks of the clock reach its poller, and it may come to an end,
but nobody starts a run in the meantime.  So a look finds the end of a run exactly if the status is
`IDLE` and a run was followed when the watch began, and it does so once.

This is what the two ways in which a watch with the run in view can end without a failure depend on.
The first look that finds the board idle ends it, and what the watch says of it tells whether there
was a run to follow.

What is printed is taken piece by piece, each piece being one text that is printed at once, so that
a line that is printed can be told from a status that only reads like it.
-/

namespace TimingBoard.Tool.Watch

/-! ## The first event of a kind -/

/-- What is taken of a list up to and including the first element of a kind. -/
inductive UpToFirst {α : Type} (Ends : α → Prop) : List α → List α → Prop
  | nil : UpToFirst Ends [] []
  | last {a : α} {rest : List α} : Ends a → UpToFirst Ends (a :: rest) [a]
  | cons {a : α} {rest taken : List α} : ¬ Ends a → UpToFirst Ends rest taken →
      UpToFirst Ends (a :: rest) (a :: taken)

section

variable {α : Type} {P Q : α → Prop} {all taken : List α}

lemma UpToFirst.congr (h : UpToFirst P all taken) (hsame : ∀ a ∈ all, P a ↔ Q a) :
    UpToFirst Q all taken := by
  induction h with
  | nil => exact .nil
  | last hlast => exact .last ((hsame _ List.mem_cons_self).1 hlast)
  | cons hnot _ ih =>
    exact .cons (mt (hsame _ List.mem_cons_self).2 hnot)
      (ih fun a ha => hsame a (List.mem_cons_of_mem _ ha))

/-- What was taken once is taken as a whole. -/
lemma UpToFirst.of_taken (h : UpToFirst P all taken) : UpToFirst P taken taken := by
  induction h with
  | nil => exact .nil
  | last hlast => exact .last hlast
  | cons hnot _ ih => exact .cons hnot ih

end

/-! ## What is printed for an event -/

/-- What is printed for an event, piece by piece. A status stands on a line of its own, which is
left only if something is to be said of it. -/
def printsOf (untilFinished : Bool) : PollEvent → List Text
  | .status u =>
    statusLine u ::
      if u.finished then ["\n".toList, "Measurement finished\n".toList]
      else if untilFinished ∧ u.status = statusIdle then
        ["\n".toList, "No measurement running\n".toList]
      else []
  | .failed _ => ["\n".toList]

/-- The failure of a watch that ends with an event. -/
def failure? : PollEvent → Option Failure
  | .status _ => none
  | .failed fault => some (.pollingStopped fault)

/-- An event that ends a watch: a failure, and with the run in view also an idle board. -/
def Ends (untilFinished : Bool) : PollEvent → Prop
  | .status u => untilFinished = true ∧ u.status = statusIdle
  | .failed _ => True

/-- Whether an event is a status in which the end of a run is found. -/
def findsEnd : PollEvent → Bool
  | .status u => u.finished
  | .failed _ => false

/-- Whether an event is a status in which no run is found where one is waited for. -/
def findsNone (untilFinished : Bool) : PollEvent → Bool
  | .status u => !u.finished && untilFinished && u.status = statusIdle
  | .failed _ => false

/-- An event after which no other one is taken. -/
def Stops (untilFinished : Bool) (event : PollEvent) : Prop :=
  (step untilFinished event).2.isSome = true

variable {untilFinished : Bool} {event : PollEvent} {published taken : List PollEvent}

lemma step_fst : (step untilFinished event).1 = (printsOf untilFinished event).flatten := by
  cases event with
  | failed fault => rfl
  | status u =>
    rw [step, printsOf]
    by_cases hfinished : u.finished
    · rw [if_pos hfinished, if_pos hfinished]
      rfl
    · rw [if_neg hfinished, if_neg hfinished]
      split_ifs
      · rfl
      · exact (List.append_nil _).symm

lemma step_of_stops (h : Stops untilFinished event) :
    step untilFinished event = ((printsOf untilFinished event).flatten, some (failure? event)) := by
  refine Prod.ext step_fst ?_
  cases event with
  | failed fault => rfl
  | status u =>
    unfold Stops at h
    simp only [step] at h ⊢
    split_ifs at h ⊢ <;> simp_all [failure?]

lemma step_of_not_stops (h : ¬ Stops untilFinished event) :
    step untilFinished event = ((printsOf untilFinished event).flatten, none) :=
  Prod.ext step_fst (by simpa [Stops] using h)

lemma bind_failure?_eq_some_iff {last? : Option PollEvent} {failure : Failure} :
    last?.bind failure? = some failure ↔
      ∃ fault, last? = some (.failed fault) ∧ failure = .pollingStopped fault := by
  rcases last? with _ | u | fault
  · simp
  · simp [failure?]
  · simp [failure?, eq_comm]

lemma failure?_of_not_stops (h : ¬ Stops untilFinished event) : failure? event = none := by
  cases event with
  | failed fault => exact absurd rfl h
  | status u => rfl

/-! ## Following events -/

/-- A watch prints something for each event that it takes, and has the failure of the last one. What
comes behind that one is not looked at. -/
lemma follow_eq (h : UpToFirst (Stops untilFinished) published taken) :
    follow untilFinished published =
      ⟨(taken.flatMap (printsOf untilFinished)).flatten, taken.getLast?.bind failure?⟩ := by
  induction h with
  | nil => rfl
  | @last event rest hstops =>
    rw [follow, step_of_stops hstops]
    simp
  | @cons event rest taken hnot _ ih =>
    rw [follow, step_of_not_stops hnot]
    simp only [ih, Report.after, List.flatMap_cons, List.flatten_append]
    cases taken with
    | nil => simp [failure?_of_not_stops hnot]
    | cons next later => simp

variable {L : Type} [Link L]

/-- A watch takes the events of its poller up to the first one that it stops for. -/
lemma upToFirst_events (happenings : List (Poller.Happening L)) (p : Poller.State L) :
    UpToFirst (Stops untilFinished) (Poller.run p happenings).1
      (events untilFinished happenings p).1 := by
  induction happenings generalizing p with
  | nil => exact .nil
  | cons happening rest ih =>
    rcases hstep : Poller.step p happening with ⟨_ | event, next⟩
    · simp only [Poller.run, events, hstep]
      exact ih next
    · rcases hstop : step untilFinished event with ⟨printed, _ | failure⟩
      · simp only [Poller.run, events, hstep, hstop]
        exact .cons (by simp [Stops, hstop]) (ih next)
      · simp only [Poller.run, events, hstep, hstop]
        exact .last (by simp [Stops, hstop])

/-! ## What is published to a watch -/

/-- Something that happens to the poller of a watch. -/
inductive Beat where
  | tick (now : Instant)
  /-- The poller comes to an end. -/
  | stop

/-- What happens to the poller then. -/
def Beat.happening : Beat → Poller.Happening L
  | tick now => .tick now
  | stop => .stop

/-- What can be published while nobody starts a run. With a run that is followed, the first idle
status is its end, and no other status is one. A failure is the last event. -/
inductive Publishes : Phase → List PollEvent → Prop
  | nil (phase : Phase) : Publishes phase []
  | failed (phase : Phase) (fault : PollFault) : Publishes phase [.failed fault]
  | ended {u : StatusUpdate} {rest : List PollEvent} : u.status = statusIdle → u.finished = true →
      Publishes .idle rest → Publishes .running (.status u :: rest)
  | unchanged {phase : Phase} {u : StatusUpdate} {rest : List PollEvent} :
      (u.status = statusIdle → phase = .idle) → u.finished = false →
      Publishes phase rest → Publishes phase (.status u :: rest)

/-- A status is published as the tracker takes note of it. -/
lemma publishes_observe {t : RunTracker} {status : Text} {now : Instant} {rest : List PollEvent}
    (h : Publishes (t.observe status now).2.phase rest) :
    Publishes t.phase (.status (t.observe status now).1 :: rest) := by
  cases hended : t.endedBy status with
  | true =>
    obtain ⟨hidle, hrunning⟩ : status = statusIdle ∧ t.phase = .running := by
      simpa [RunTracker.endedBy] using hended
    rw [hrunning]
    simp only [RunTracker.observe, hended] at h ⊢
    exact .ended hidle rfl h
  | false =>
    have hnot : status = statusIdle → t.phase = .idle := by
      cases hphase : t.phase <;> simp_all [RunTracker.endedBy]
    simp only [RunTracker.observe, hended] at h ⊢
    exact .unchanged hnot rfl h

/-- At a tick a poller publishes that it failed and comes to an end, or it publishes a status, of
which the tracker has taken note. -/
lemma step_tick (shared : SharedClient L) (now : Instant) :
    (∃ fault left, Poller.step ⟨shared, true⟩ (.tick now) = (some (.failed fault), ⟨left, false⟩)) ∨
      ∃ status left, Poller.step ⟨shared, true⟩ (.tick now) =
          (some (.status (shared.client.tracker.observe status now).1), ⟨left, true⟩) ∧
        left.client.tracker = (shared.client.tracker.observe status now).2 := by
  let look : PollLook L := ⟨now, shared⟩
  have hlook : Poller.look now shared = (look.event, look.left) := look.look_eq
  rcases look.result_cases with ⟨hresult, -⟩ | ⟨status, -, hresult, hleft⟩ | ⟨e, hresult, -⟩
  · refine .inl ⟨.lockPoisoned, look.left, ?_⟩
    simp [Poller.step, hlook, PollLook.event, hresult, PollEvent.ofResult]
  · refine .inr ⟨status, look.left, ?_, by rw [hleft]⟩
    simp [Poller.step, hlook, PollLook.event, hresult, PollEvent.ofResult, look]
  · refine .inl ⟨.call e, look.left, ?_⟩
    simp [Poller.step, hlook, PollLook.event, hresult, PollEvent.ofResult]

/-- A poller that has come to an end publishes nothing. -/
lemma run_of_ended (beats : List Beat) (shared : SharedClient L) :
    (Poller.run ⟨shared, false⟩ (beats.map Beat.happening)).1 = [] := by
  induction beats with
  | nil => rfl
  | cons beat rest ih => cases beat <;> simpa [Poller.run, Poller.step, Beat.happening] using ih

/-- The poller of a watch publishes what can be published for the phase of its client. -/
lemma publishes_run (beats : List Beat) (shared : SharedClient L) :
    Publishes shared.client.tracker.phase
      (Poller.run ⟨shared, true⟩ (beats.map Beat.happening)).1 := by
  induction beats generalizing shared with
  | nil => exact .nil _
  | cons beat rest ih =>
    cases beat with
    | stop =>
      have hnone : (Poller.run ⟨shared, true⟩ ((Beat.stop :: rest).map Beat.happening)).1 = [] :=
        run_of_ended rest shared
      rw [hnone]
      exact .nil _
    | tick now =>
      rw [List.map_cons, Beat.happening, Poller.run]
      rcases step_tick shared now with ⟨fault, left, hstep⟩ | ⟨status, left, hstep, htracker⟩
      · rw [hstep]
        simp only [run_of_ended, Option.toList_some, List.append_nil]
        exact .failed _ fault
      · rw [hstep]
        simp only [Option.toList_some, List.singleton_append]
        exact publishes_observe (htracker ▸ ih left)

/-! ## The end of a watch -/

variable {phase : Phase}

/-- A watch stops for the events that end it, since the end of a run is found in an idle status
only. -/
lemma Publishes.stops_iff (h : Publishes phase published) :
    ∀ event ∈ published, Stops untilFinished event ↔ Ends untilFinished event := by
  have hstatus {u : StatusUpdate} (hu : u.finished = true → u.status = statusIdle) :
      Stops untilFinished (.status u) ↔ Ends untilFinished (.status u) := by
    simp only [Stops, Ends, step]
    cases untilFinished <;> split_ifs <;> simp_all
  induction h with
  | nil => simp
  | failed phase fault => simp [Stops, Ends, step]
  | ended hidle _ _ ih => exact List.forall_mem_cons.2 ⟨hstatus fun _ => hidle, ih⟩
  | unchanged _ hgoes _ ih =>
    exact List.forall_mem_cons.2 ⟨hstatus fun h => by simp [hgoes] at h, ih⟩

/-- Without the run in view a watch takes everything. -/
lemma Publishes.eq_of_upToFirst (h : Publishes phase published)
    (htaken : UpToFirst (Ends false) published taken) : taken = published := by
  induction htaken generalizing phase with
  | nil => rfl
  | last hends =>
    cases h with
    | failed => rfl
    | ended => exact absurd hends.1 Bool.false_ne_true
    | unchanged => exact absurd hends.1 Bool.false_ne_true
  | cons hnot _ ih =>
    cases h with
    | failed => exact absurd trivial hnot
    | ended _ _ hrest => rw [ih hrest]
    | unchanged _ _ hrest => rw [ih hrest]

/-- The last event that is taken shows an idle board. -/
def EndsIdle (taken : List PollEvent) : Prop :=
  ∃ u, taken.getLast? = some (.status u) ∧ u.status = statusIdle

lemma endsIdle_cons (h : ¬ Ends true event) : EndsIdle (event :: taken) ↔ EndsIdle taken := by
  cases taken with
  | nil =>
    refine ⟨?_, fun ⟨_, hlast, _⟩ => nomatch hlast⟩
    rintro ⟨u, hlast, hidle⟩
    obtain rfl := Option.some.inj hlast
    exact absurd ⟨rfl, hidle⟩ h
  | cons next later => rw [EndsIdle, EndsIdle, List.getLast?_cons_cons]

/-- With the run in view the end of the run is found once, if a run was followed at the beginning
and a look finds the board idle. No run is found once, if none was followed and a look finds the
board idle. -/
lemma Publishes.finds (h : Publishes phase published)
    (htaken : UpToFirst (Ends true) published taken) :
    (¬ EndsIdle taken ∧ taken.countP findsEnd = 0 ∧ taken.countP (findsNone true) = 0) ∨
      (EndsIdle taken ∧ phase = .running ∧
        taken.countP findsEnd = 1 ∧ taken.countP (findsNone true) = 0) ∨
      (EndsIdle taken ∧ phase = .idle ∧
        taken.countP findsEnd = 0 ∧ taken.countP (findsNone true) = 1) := by
  induction htaken generalizing phase with
  | nil => exact .inl ⟨fun ⟨_, hlast, _⟩ => (nomatch hlast), rfl, rfl⟩
  | @last event rest hends =>
    cases h with
    | failed => exact .inl ⟨fun ⟨_, hlast, _⟩ => (nomatch hlast), rfl, rfl⟩
    | ended hidle hfinished _ =>
      exact .inr (.inl ⟨⟨_, rfl, hidle⟩, rfl, by simp [findsEnd, hfinished],
        by simp [findsNone, hfinished]⟩)
    | unchanged hphase hgoes _ =>
      obtain ⟨-, hidle⟩ := hends
      exact .inr (.inr ⟨⟨_, rfl, hidle⟩, hphase hidle, by simp [findsEnd, hgoes],
        by simp [findsNone, hgoes, hidle]⟩)
  | @cons event rest taken hnot _ ih =>
    rw [endsIdle_cons hnot]
    cases h with
    | failed => exact absurd trivial hnot
    | ended hidle _ _ => exact absurd ⟨rfl, hidle⟩ hnot
    | @unchanged _ u _ _ hgoes hrest =>
      have hother : u.status ≠ statusIdle := fun hidle => hnot ⟨rfl, hidle⟩
      rw [List.countP_cons_of_neg (by simp [findsEnd, hgoes]),
        List.countP_cons_of_neg (by simp [findsNone, hother])]
      exact ih hrest

/-! ## What is printed in all -/

/-- The line with which a watch begins. -/
def opening (interval : Span) : Text :=
  "Polling every ".toList ++ interval.describe ++ ", Ctrl+C to quit\n".toList

lemma opening_eq (interval : Span) :
    opening interval =
      Report.line ("Polling every ".toList ++ interval.describe ++ ", Ctrl+C to quit".toList) := by
  have hend : ", Ctrl+C to quit\n".toList = ", Ctrl+C to quit".toList ++ ['\n'] := by decide
  unfold opening Report.line
  rw [hend]
  exact (List.append_assoc _ _ _).symm

lemma printed_run (interval : Span) (happenings : List (Poller.Happening L)) (c : Client L) :
    (run interval untilFinished happenings c).1.printed = opening interval ++
      (follow untilFinished (events untilFinished happenings ⟨⟨c, false⟩, true⟩).1).printed := by
  rw [opening_eq]
  rfl

lemma statusLine_ne {line : Text} (u : StatusUpdate) (h : line.head? ≠ some '\r') :
    statusLine u ≠ line := by
  rintro rfl
  exact h rfl

lemma opening_ne {line : Text} (interval : Span) (h : line.head? ≠ some 'P') :
    opening interval ≠ line := by
  rintro rfl
  exact h rfl

/-- A line other than the first that is printed once for the events of a kind, and for the others
not at all, is printed as often as there are events of this kind. -/
lemma count_prints {line : Text} {kind : PollEvent → Bool} (hline : line.head? ≠ some 'P')
    (h : ∀ event, (printsOf untilFinished event).count line = if kind event then 1 else 0)
    (interval : Span) (taken : List PollEvent) :
    (opening interval :: taken.flatMap (printsOf untilFinished)).count line =
      taken.countP kind := by
  rw [List.count_cons_of_ne (opening_ne interval hline)]
  induction taken with
  | nil => rfl
  | cons event rest ih =>
    rw [List.flatMap_cons, List.count_append, ih, h, List.countP_cons, Nat.add_comm]

/-- A run is said to be finished for each status in which its end is found. -/
lemma count_finished (interval : Span) (taken : List PollEvent) :
    (opening interval :: taken.flatMap (printsOf untilFinished)).count
      "Measurement finished\n".toList = taken.countP findsEnd := by
  refine count_prints (by decide) (fun event => ?_) interval taken
  cases event with
  | failed fault => rfl
  | status u =>
    rw [printsOf, List.count_cons_of_ne (statusLine_ne u (by decide)), findsEnd]
    split_ifs <;> decide

/-- No run is said to be in progress for each status in which none is found. -/
lemma count_noneRunning (interval : Span) (taken : List PollEvent) :
    (opening interval :: taken.flatMap (printsOf untilFinished)).count
      "No measurement running\n".toList = taken.countP (findsNone untilFinished) := by
  refine count_prints (by decide) (fun event => ?_) interval taken
  cases event with
  | failed fault => rfl
  | status u =>
    rw [printsOf, List.count_cons_of_ne (statusLine_ne u (by decide))]
    cases hfinished : u.finished <;> cases untilFinished <;>
      by_cases hidle : u.status = statusIdle <;> simp [findsNone, hfinished, hidle]

/-- **What a watch reports.**  Of the events of its poller it takes those up to and including the
first one that ends it, and the events after that one are not looked at.  It prints the pieces of
each of them, and fails exactly if the last one is a failure.  With the run in view at most one line
about the run is printed: that it is finished, exactly if a run was followed at the beginning and
the last event is an idle status, and that none is running, exactly if none was followed and the
last event is an idle status.  Without the run in view it takes all events, and prints that a run is
finished for each one in which the end of a run is found. -/
theorem run_reports (interval : Span) (untilFinished : Bool) (beats : List Beat) (c : Client L) :
    let happenings : List (Poller.Happening L) := beats.map Beat.happening
    let published := (Poller.run ⟨⟨c, false⟩, true⟩ happenings).1
    let taken := (events untilFinished happenings ⟨⟨c, false⟩, true⟩).1
    let report := (run interval untilFinished happenings c).1
    let prints := opening interval :: taken.flatMap (printsOf untilFinished)
    UpToFirst (Ends untilFinished) published taken ∧
      follow untilFinished published = follow untilFinished taken ∧
      report.printed = prints.flatten ∧
      (∀ failure, report.failure = some failure ↔
        ∃ fault, taken.getLast? = some (.failed fault) ∧ failure = .pollingStopped fault) ∧
      (untilFinished = true →
        prints.count "Measurement finished\n".toList +
          prints.count "No measurement running\n".toList ≤ 1 ∧
        (prints.count "Measurement finished\n".toList = 1 ↔
          c.tracker.phase = .running ∧ EndsIdle taken) ∧
        (prints.count "No measurement running\n".toList = 1 ↔
          c.tracker.phase = .idle ∧ EndsIdle taken)) ∧
      (untilFinished = false → taken = published ∧
        prints.count "Measurement finished\n".toList = taken.countP findsEnd ∧
        prints.count "No measurement running\n".toList = 0) := by
  intro happenings published taken report prints
  have hpublishes : Publishes c.tracker.phase published := publishes_run beats ⟨c, false⟩
  have hstops : UpToFirst (Stops untilFinished) published taken := upToFirst_events happenings _
  have hends : UpToFirst (Ends untilFinished) published taken := hstops.congr hpublishes.stops_iff
  have hfollow := follow_eq hstops.of_taken
  rw [count_finished, count_noneRunning]
  refine ⟨hends, (follow_eq hstops).trans hfollow.symm, ?_, fun failure => ?_, ?_, ?_⟩
  · rw [printed_run, hfollow, List.flatten_cons]
  · change (follow untilFinished taken).failure = some failure ↔ _
    rw [hfollow, bind_failure?_eq_some_iff]
  · rintro rfl
    rcases hpublishes.finds hends with ⟨hnot, hcounts⟩ | ⟨hidle, hphase, hcounts⟩ |
      ⟨hidle, hphase, hcounts⟩
    · simp [hcounts, hnot]
    · simp [hcounts, hidle, hphase]
    · simp [hcounts, hidle, hphase]
  · rintro rfl
    refine ⟨hpublishes.eq_of_upToFirst hends, rfl, List.countP_eq_zero.2 fun event _ => ?_⟩
    cases event <;> simp [findsNone]

/-- The second look finds the board idle, and the third reply is not asked for. If a run is followed
when the watch begins, then it is said to be finished, and otherwise that none is running. -/
theorem run_reports_secondLook :
    let told := ClientStep.sessionTold <|
      "MSR STATUS RUNNING\r\n" ++ "MSR STATUS IDLE\r\n" ++ "MSR STATUS IDLE\r\n"
    let started : Client Script :=
      ⟨told, RunTracker.idle.start ⟨"10".toList, some .seconds⟩ ⟨0⟩⟩
    let idle : Client Script := ⟨told, .idle⟩
    let beats : List Beat := [.tick ⟨1⟩, .tick ⟨2⟩, .tick ⟨3⟩]
    let taken (c : Client Script) := (events true (beats.map Beat.happening) ⟨⟨c, false⟩, true⟩).1
    let printed (c : Client Script) :=
      (run (.ofSeconds 1) true (beats.map Beat.happening) c).1.printed
    let prints (c : Client Script) :=
      opening (.ofSeconds 1) :: (taken c).flatMap (printsOf true)
    (taken started).length = 2 ∧ (taken idle).length = 2 ∧
      printed started =
        ("Polling every 1s, Ctrl+C to quit\n" ++ "\rRUNNING        00:00:09   " ++
          "\rIDLE           00:00:00   " ++ "\n" ++ "Measurement finished\n").toList ∧
      (prints started).count "Measurement finished\n".toList = 1 ∧
      printed idle =
        ("Polling every 1s, Ctrl+C to quit\n" ++ "\rRUNNING        00:00:00   " ++
          "\rIDLE           00:00:00   " ++ "\n" ++ "No measurement running\n").toList ∧
      (prints idle).count "No measurement running\n".toList = 1 := by
  intro told started idle beats taken printed prints
  have hsaid (c : Client Script) := (run_reports (.ofSeconds 1) true beats c).2.2.2.2.1 rfl
  have hstarted : EndsIdle (taken started) :=
    ⟨⟨statusIdle, .idle, .inactive, true⟩, by decide +kernel, rfl⟩
  have hidle : EndsIdle (taken idle) :=
    ⟨⟨statusIdle, .idle, .inactive, false⟩, by decide +kernel, rfl⟩
  exact ⟨by decide +kernel, by decide +kernel, by decide +kernel,
    (hsaid started).2.1.2 ⟨rfl, hstarted⟩, by decide +kernel, (hsaid idle).2.2.2 ⟨rfl, hidle⟩⟩

end TimingBoard.Tool.Watch
