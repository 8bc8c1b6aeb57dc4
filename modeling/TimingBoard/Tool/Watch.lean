import TimingBoard.Tool.Report

/-!
# Watching a run

The status is looked at again and again, and shown in one line that is written over. The watch ends
with the first look that fails. If it is to end with the run, it also ends with the first look that
finds the board idle: a measurement is finished if one was running when the watch began, and none
is running otherwise.
-/

namespace TimingBoard.Tool.Watch

/-- The line that shows a status and its countdown. -/
def statusLine (u : StatusUpdate) : Text :=
  '\r' :: Text.padEnd 10 u.status ++ ' ' :: Text.padStart 12 u.countdown.text ++ "   ".toList

/-- What one event prints, and whether it ends the watch: `none` to go on, and otherwise the
failure, if it is one. -/
def step (untilFinished : Bool) : PollEvent → Text × Option (Option Failure)
  | .status u =>
    if u.finished then
      (statusLine u ++ '\n' :: Report.say "Measurement finished",
        if untilFinished then some none else none)
    else if untilFinished ∧ u.status = statusIdle then
      (statusLine u ++ '\n' :: Report.say "No measurement running", some none)
    else (statusLine u, none)
  | .failed fault => (['\n'], some (some (.pollingStopped fault)))

/-- The report of a watch over the given events. The events after the one that ends it are not
looked at. -/
def follow (untilFinished : Bool) : List PollEvent → Report
  | [] => .ok []
  | event :: rest =>
    match step untilFinished event with
    | (printed, none) => (follow untilFinished rest).after printed
    | (printed, some failure) => ⟨printed, failure⟩

variable {L : Type} [Link L]

/-- The events of a watch while things happen, up to the one that ends it, and the poller after
it. -/
def events (untilFinished : Bool) :
    List (Poller.Happening L) → Poller.State L → List PollEvent × Poller.State L
  | [], p => ([], p)
  | happening :: rest, p =>
    match Poller.step p happening with
    | (none, p) => events untilFinished rest p
    | (some event, p) =>
      match step untilFinished event with
      | (_, none) =>
        let (later, p) := events untilFinished rest p
        (event :: later, p)
      | (_, some _) => ([event], p)

/-- Watches the status while things happen. -/
def run (interval : Span) (untilFinished : Bool) (happenings : List (Poller.Happening L))
    (c : Client L) : Report × Client L :=
  let (events, p) := events untilFinished happenings ⟨⟨c, false⟩, true⟩
  ((follow untilFinished events).after
    (Report.line ("Polling every ".toList ++ interval.describe ++ ", Ctrl+C to quit".toList)),
    p.shared.client)

end TimingBoard.Tool.Watch
