import TimingBoard.Proofs.Call.Sequence
import TimingBoard.Proofs.Client.Measuring
import TimingBoard.Proofs.Client.Together

/-!
# Looking at the status in between

While a user makes calls, somebody else looks at the status in between, at any times.  Both share
the session and its buffer, and every look makes the board check whether the run in progress is
over.  Here the calls of the user are compared with the same calls, made at the same times, without
the looks.

They have the same results, leave the same entries in the log and lead to the same board, but for
the number of starts of a run that ends by itself.  A run is measured when its end is noticed, and a
look may notice it earlier.

Nothing else may be left of a look.  A stored text with the end of a line in it would leave half of
a reply on its way, which the look then takes for its own.  And a call that sends no line lets the
end of a run go unnoticed that a look has noticed.
-/

namespace TimingBoard

open Board

/-- A client whose board reads the time off a clock. -/
def Client.withClock (clock : Nat → Instant) (client : Client Connection) : Client Connection :=
  { client with session := { client.session with
    link := { client.session.link with clock := clock } } }

/-- A call of a user or a look at the status in between, with what the clock shows at its lines. -/
structure Step where
  call : ClientCall
  clock : Nat → Instant

/-- What becomes of a step: the lines that it hands to the board, its result, and the client after
it. -/
structure Observation where
  step : Step
  arrivals : List Arrival
  result : Except Error Answer
  client : Client Connection

namespace Step

/-- Steps whose times come one after the other. -/
def InOrder (steps : List Step) : Prop :=
  steps.Pairwise fun step later => ∀ n m, (step.clock n).nanos ≤ (later.clock m).nanos

/-- The calls of the user. -/
def isOfUser (step : Step) : Bool :=
  !step.call.isPoll

/-- What becomes of a step. -/
def observe (step : Step) (client : Client Connection) : Observation :=
  let client := client.withClock step.clock
  let (result, after) := step.call.perform.run client
  ⟨step, step.call.dialogue.arrivals client, result, after⟩

/-- What becomes of steps one after the other. -/
def observeAll : List Step → Client Connection → List Observation
  | [], _ => []
  | step :: rest, client => step.observe client :: observeAll rest (step.observe client).client

end Step

namespace Observation

/-- What becomes of a call of the user. -/
def isOfUser (seen : Observation) : Bool :=
  seen.step.isOfUser

/-- All lines that are handed to the board. -/
def lines (seen : List Observation) : List Arrival :=
  seen.flatMap arrivals

/-- What becomes of a call differs in nothing but numbers of starts of runs that ended by
themselves, which are found over by different lines: its result, the log, and the board. If the call
sent no line, then the second board may also have noticed the end of a run before, at one of its
lines. -/
structure Alike (lines lines' : List Arrival) (seen seen' : Observation) : Prop where
  result : ResultsAlike (Answer.Alike (Arrival.Twin lines lines')) seen.result seen'.result
  log : seen.client.session.log.Alike (Arrival.Twin lines lines') seen'.client.session.log
  board : seen.client.board.Alike (Arrival.Twin lines lines') seen'.client.board ∨
    seen.arrivals = [] ∧ ∃ a ∈ lines', seen.client.board.isOver a.now = true ∧
      (seen.client.board.endRun a.now).Alike (Arrival.Twin lines lines') seen'.client.board

end Observation

variable {lines lines' : List Arrival} {before : Instant} {runs : Nat} {x y : Client Connection}

/-! ## One step -/

namespace Client

/-- A client stays in touch with its board, whatever clock that reads. -/
lemma isInTouch_withClock (h : x.session.IsInTouch runs) (clock : Nat → Instant) :
    (x.withClock clock).session.IsInTouch runs :=
  ⟨⟨h.quiet.connected, h.quiet.buffer, h.quiet.arriving, h.quiet.unfinished⟩, h.isUnbroken,
    h.hasRoom⟩

/-- The clock makes no difference to what clients have in common. -/
lemma together_withClock (h : Session.Together lines lines' before runs x.session y.session)
    (clock : Nat → Instant) : Session.Together lines lines' before runs
      (x.withClock clock).session (y.withClock clock).session :=
  ⟨isInTouch_withClock h.left clock, isInTouch_withClock h.right clock, h.unmuted, h.near, h.log⟩

/-- A look at the status by the second client keeps its board near and its log as it is. -/
lemma together_pollStatus (h : Session.Together lines lines' before runs x.session y.session)
    (now : Instant) (hle : before.nanos ≤ y.now.nanos)
    (hlines : ∀ a ∈ (ClientCall.pollStatus now).dialogue.arrivals y, a ∈ lines') :
    Session.Together lines lines' y.now runs x.session ((pollStatus now).run y).2.session := by
  obtain ⟨c, hmake, hc⟩ := Command.exists_measures_word "STATUS".toList (by decide)
  have hstart : c.startCount = 0 := by
    rw [Command.startCount, hc.cut]
    exact if_neg fun hkey => absurd hkey.2 (by decide)
  have hdialogue : ∃ next, (ClientCall.pollStatus now).dialogue = .ask c true next := by
    unfold ClientCall.dialogue Dialogue.pollStatus Dialogue.status Dialogue.askFor
    rw [hmake]
    exact ⟨_, rfl⟩
  obtain ⟨next, hdialogue⟩ := hdialogue
  have hline : ⟨y.now, y.board⟩ ∈ lines' := hlines _ (by simp [hdialogue, Dialogue.arrivals])
  have hright : ((Session.execute c true).run y.session).2.IsInTouch runs :=
    Session.IsInTouch.after_execute (by rw [hstart]; exact h.right)
  obtain ⟨first, rest, -, hrun⟩ := h.right.execute_run h.unmuted_right c true
  have hboard : ((Session.execute c true).run y.session).2.link.board =
      y.board.prepared y.now c.line := by
    have hhandle : (y.board.handle y.now c.line).2 = y.board.prepared y.now c.line := by
      rw [handle_of_measures hc, answerMeasure_status hc]
    rw [hrun]
    exact hhandle
  have hlog : ((Session.execute c true).run y.session).2.log = y.session.log := by
    rw [hrun]
    rfl
  rw [session_pollStatus hmake now y]
  refine ⟨h.left, hright, h.unmuted, ?_, ?_⟩
  · rw [hboard]
    exact h.near.prepared_right hle hline c.line
  · rw [hlog]
    exact h.log

end Client

namespace Step

/-- A call of the user in both runs. -/
lemma observe_alike {step : Step}
    (h : Session.Together lines lines' before (runs + 1) x.session y.session)
    (htyped : step.call.IsTyped) (huser : step.isOfUser = true)
    (hbefore : ∀ n, before.nanos ≤ (step.clock n).nanos)
    (hlines : ∀ a ∈ (step.observe x).arrivals, a ∈ lines) :
    Observation.Alike lines lines' (step.observe x) (step.observe y) ∧
      Session.Together lines lines' before runs (step.observe x).client.session
        (step.observe y).client.session := by
  have hpoll : step.call.isPoll = false := by simpa [isOfUser] using huser
  have hfollow := Client.together_follow (step.call.alike_dialogue htyped hpoll)
    step.call.startsAtMost_dialogue step.call.startsAtMost_dialogue
    (Client.together_withClock h step.clock) rfl hbefore hlines
  rw [← step.call.perform_eq_follow] at hfollow
  obtain ⟨hresults, htogether, hboards⟩ := hfollow
  refine ⟨⟨hresults, htogether.log, ?_⟩, htogether⟩
  by_cases hnone : (step.observe x).arrivals = []
  · cases htogether.near with
    | alike halike => exact Or.inl halike
    | ahead hmem hends hmoment hahead =>
      exact Or.inr ⟨hnone, _, hmem, hahead.isOver, hahead.endRun⟩
  · exact Or.inl (hboards (Or.inr hnone))

/-- A look at the status in the second run. -/
lemma together_observe_poll {step : Step}
    (h : Session.Together lines lines' before runs x.session y.session)
    (hpoll : step.isOfUser = false) (hbefore : ∀ n, before.nanos ≤ (step.clock n).nanos)
    (hlines : ∀ a ∈ (step.observe y).arrivals, a ∈ lines') :
    Session.Together lines lines' (step.clock 0) runs x.session
      (step.observe y).client.session := by
  obtain ⟨call, clock⟩ := step
  cases call with
  | pollStatus now =>
    have hclock := Client.together_withClock h clock
    have htogether := Client.together_pollStatus (x := x) (y := y.withClock clock)
      ⟨h.left, hclock.right, h.unmuted, hclock.near, hclock.log⟩ now (hbefore 0) hlines
    have hclient : (Step.observe ⟨.pollStatus now, clock⟩ y).client =
        ((Client.pollStatus now).run (y.withClock clock)).2 :=
      congrArg Prod.snd (Call.run_map Answer.update (Client.pollStatus now) (y.withClock clock))
    rw [hclient]
    exact htogether
  | _ => simp [isOfUser, ClientCall.isPoll] at hpoll

/-! ## All steps -/

/-- All calls of the user in both runs. -/
lemma observeAll_alike {steps : List Step}
    (h : Session.Together lines lines' before steps.length x.session y.session)
    (htyped : ∀ step ∈ steps, step.call.IsTyped) (horder : InOrder steps)
    (hbefore : ∀ step ∈ steps, ∀ n, before.nanos ≤ (step.clock n).nanos)
    (hlines : ∀ a ∈ Observation.lines (observeAll (steps.filter isOfUser) x), a ∈ lines)
    (hlines' : ∀ a ∈ Observation.lines (observeAll steps y), a ∈ lines') :
    List.Forall₂ (Observation.Alike lines lines') (observeAll (steps.filter isOfUser) x)
      ((observeAll steps y).filter Observation.isOfUser) := by
  -- The moment up to which the boards are near moves on with each look; a call of the user leaves
  -- it, since the next step is later than it anyway.
  induction steps generalizing before x y with
  | nil => exact .nil
  | cons step rest ih =>
    obtain ⟨hlater, hrest⟩ := List.pairwise_cons.1 horder
    have htyped' : ∀ other ∈ rest, other.call.IsTyped := fun other hother =>
      htyped other (by simp [hother])
    have hfirst' : ∀ a ∈ (step.observe y).arrivals, a ∈ lines' := fun a ha =>
      hlines' a (List.mem_append_left _ ha)
    have hmore' : ∀ a ∈ Observation.lines (observeAll rest (step.observe y).client), a ∈ lines' :=
      fun a ha => hlines' a (List.mem_append_right _ ha)
    cases huser : step.isOfUser with
    | true =>
      rw [List.filter_cons_of_pos huser] at hlines ⊢
      obtain ⟨hstep, htogether⟩ := observe_alike h (htyped step (by simp)) huser
        (hbefore step (by simp)) fun a ha => hlines a (List.mem_append_left _ ha)
      have hseen : (step.observe y).isOfUser = true := huser
      rw [observeAll, observeAll, List.filter_cons_of_pos hseen]
      refine .cons hstep (ih htogether htyped' hrest ?_ ?_ hmore')
      · exact fun other hother => hbefore other (by simp [hother])
      · exact fun a ha => hlines a (List.mem_append_right _ ha)
    | false =>
      have hdrop : ¬ step.isOfUser = true := by simp [huser]
      have hseen : ¬ (step.observe y).isOfUser = true := hdrop
      rw [List.filter_cons_of_neg hdrop] at hlines ⊢
      have htogether := together_observe_poll (h.mono (Nat.le_succ _)) huser
        (hbefore step (by simp)) hfirst'
      rw [observeAll, List.filter_cons_of_neg hseen]
      exact ih htogether htyped' hrest (fun other hother => hlater other hother 0) hlines hmore'

/-- **Looks at the status do not interfere.** A client begins with nothing on its way, over a board
that is not mute and has no broken texts. Somebody makes typed calls, at any times, and the status
is looked at in between. Without the looks every call would have had the same result, left the same
entries in the log and led to the same board, except for numbers of starts of runs that ended by
themselves. Only after a call that sent no line a run may have been noticed to be over that would
still be in progress. -/
theorem polls_leave_calls_alike (steps : List Step) (client : Client Connection)
    (htyped : ∀ step ∈ steps, step.call.IsTyped) (horder : InOrder steps)
    (hquiet : client.session.IsQuiet) (hmute : client.board.mute = false)
    (hunbroken : client.board.IsUnbroken) (hroom : client.board.HasRoomFor steps.length) :
    let alone := observeAll (steps.filter isOfUser) client
    let polled := observeAll steps client
    List.Forall₂ (Observation.Alike (Observation.lines alone) (Observation.lines polled)) alone
      (polled.filter Observation.isOfUser) := by
  intro alone polled
  have hboard : client.board.Alike (Arrival.Twin (Observation.lines alone)
      (Observation.lines polled)) client.board :=
    ⟨SameSettings.refl _, rfl, List.forall₂_refl _⟩
  have htogether : Session.Together (Observation.lines alone) (Observation.lines polled) ⟨0⟩
      steps.length client.session client.session :=
    ⟨⟨hquiet, hunbroken, hroom⟩, ⟨hquiet, hunbroken, hroom⟩, hmute, .alike hboard,
      List.forall₂_refl _⟩
  exact observeAll_alike htogether htyped horder (fun _ _ _ => Nat.zero_le _) (fun _ ha => ha)
    fun _ ha => ha

/-- A client of a board whose runs last a second. -/
def secondClient : Client Connection :=
  .ofSession ⟨.toBoard { Board.atRest with totalTime := ⟨"1".toList, some .seconds⟩ } ⟨0⟩,
    .empty, Session.defaultWait, true, .empty⟩

/-- A step whose lines all arrive at one moment. -/
def timed (millis : Nat) (call : ClientCall) : Step :=
  ⟨call, fun _ => ⟨millis * 1000000⟩⟩

/-- A run is over after a second, which a look notices at once and the user only after five seconds.
The list has another number of starts then, and so have the statistics that are logged. -/
theorem polls_leave_calls_alike_secondClient :
    let steps := [timed 0 (.startRun .unchanged ⟨0⟩), timed 1200 (.pollStatus ⟨0⟩),
      timed 1300 (.set (.filePrefix "a b".toList)), timed 5000 .measurements,
      timed 5000 (.pollStatus ⟨0⟩), timed 6000 (.statistics 0 true),
      timed 6000 (.startRun .unchanged ⟨0⟩)]
    let alone := observeAll (steps.filter isOfUser) secondClient
    let polled := observeAll steps secondClient
    (∀ step ∈ steps, step.call.IsTyped) ∧ InOrder steps ∧ secondClient.session.IsQuiet ∧
      secondClient.board.mute = false ∧ secondClient.board.IsUnbroken ∧
      secondClient.board.HasRoomFor steps.length ∧
      List.Forall₂ (Observation.Alike (Observation.lines alone) (Observation.lines polled)) alone
        (polled.filter Observation.isOfUser) ∧
      alone.map (·.client.board.measurements) = [[], [], [500], [500], [500]] ∧
      (polled.filter Observation.isOfUser).map (·.client.board.measurements) =
        [[], [120], [120], [120], [120]] := by
  intro steps alone polled
  have htyped : ∀ step ∈ steps, step.call.IsTyped := by simp [steps, timed, ClientCall.IsTyped]
  have horder : InOrder steps := by simp [steps, timed, InOrder]
  have hquiet : secondClient.session.IsQuiet := ⟨rfl, rfl, rfl, rfl⟩
  have hline : secondClient.board.IsOneLine :=
    ⟨fun key => by cases key <;> decide, by decide, by decide, by decide⟩
  have hroom : secondClient.board.HasRoomFor steps.length := ⟨by decide, by decide⟩
  exact ⟨htyped, horder, hquiet, rfl, hline.isUnbroken, hroom, polls_leave_calls_alike steps
    secondClient htyped horder hquiet rfl hline.isUnbroken hroom, by decide +kernel,
    by decide +kernel⟩

/-- A client of a board with the end of a line in its prefix, and more of a line behind it. -/
def splitPrefixClient : Client Connection :=
  .ofSession ⟨.toBoard { Board.atRest with filePrefix := "x\r\nACK".toList } ⟨0⟩,
    .empty, Session.defaultWait, true, .empty⟩

/-- A look can show in two other ways. Half of a broken prefix stays on its way when it was asked
for; a call of the user takes it for its reply, but fails if a look takes it first. And a call that
is refused sends no line, so that it finds a run still in progress that a look has ended. -/
theorem polls_show_in_calls :
    let broken := [timed 0 .filePrefix, timed 0 (.pollStatus ⟨0⟩), timed 0 (.set (.autosave 5))]
    let refused := [timed 0 (.startRun .unchanged ⟨0⟩), timed 1200 (.pollStatus ⟨0⟩),
      timed 1300 (.set (.filePrefix "a b".toList))]
    (∀ step ∈ broken ++ refused, step.call.IsTyped) ∧ InOrder broken ∧ InOrder refused ∧
      splitPrefixClient.session.IsQuiet ∧ splitPrefixClient.board.mute = false ∧
      (observeAll (broken.filter isOfUser) splitPrefixClient).map (·.result.isOk) = [true, true] ∧
      ((observeAll broken splitPrefixClient).filter Observation.isOfUser).map (·.result.isOk) =
        [true, false] ∧
      secondClient.session.IsQuiet ∧ secondClient.board.mute = false ∧
      (observeAll (refused.filter isOfUser) secondClient).map (·.client.board.runningSince.isSome) =
        [true, true] ∧
      ((observeAll refused secondClient).filter Observation.isOfUser).map
        (·.client.board.runningSince.isSome) = [true, false] := by
  intro broken refused
  have htyped : ∀ step ∈ broken ++ refused, step.call.IsTyped := by
    simp [broken, refused, timed, ClientCall.IsTyped]
  have hbroken : InOrder broken := by simp [broken, timed, InOrder]
  have hrefused : InOrder refused := by simp [refused, timed, InOrder]
  exact ⟨htyped, hbroken, hrefused, ⟨rfl, rfl, rfl, rfl⟩, rfl, by decide +kernel, by decide +kernel,
    ⟨rfl, rfl, rfl, rfl⟩, rfl, by decide +kernel, by decide +kernel⟩

end Step

end TimingBoard
