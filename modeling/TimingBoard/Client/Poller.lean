import TimingBoard.Client.Basic

/-!
# Polling the status

A poller looks at the status at every tick of a clock and publishes what it finds. It shares the
client with the user and takes its lock for each look, so that looks and commands never mix. The
first look that fails is published and ends the polling, and so does a request to stop.
-/

namespace TimingBoard

/-- A client that is shared under a lock. A holder that broke down poisons the lock. -/
structure SharedClient (L : Type) where
  client : Client L
  poisoned : Bool

/-- Why a look at the status failed. -/
inductive PollFault where
  | call (error : Error)
  | lockPoisoned
  deriving DecidableEq

/-- The text of a fault. -/
def PollFault.message : PollFault → Text
  | .call error => error.message
  | .lockPoisoned => "client lock poisoned".toList

/-- What a poller publishes. -/
inductive PollEvent where
  | status (update : StatusUpdate)
  /-- Polling ended because of a fault. -/
  | failed (fault : PollFault)
  deriving DecidableEq

namespace Poller

variable {L : Type} [Link L]

/-- One look at the status. -/
def look (now : Instant) (s : SharedClient L) : PollEvent × SharedClient L :=
  if s.poisoned then (.failed .lockPoisoned, s)
  else
    match (Client.pollStatus now).run s.client with
    | (.ok update, client) => (.status update, { s with client := client })
    | (.error e, client) => (.failed (.call e), { s with client := client })

/-- Something that happens while a poller may be running. -/
inductive Happening (L : Type) where
  | tick (now : Instant)
  /-- The user takes the lock and does something with the client. -/
  | user (act : SharedClient L → SharedClient L)
  | stop

/-- A poller together with the client it looks through. -/
structure State (L : Type) where
  shared : SharedClient L
  running : Bool

/-- What happens to a poller, and the event it publishes, if any. A poller that has ended lets
ticks pass. -/
def step (s : State L) : Happening L → Option PollEvent × State L
  | .tick now =>
    if s.running then
      match look now s.shared with
      | (.status update, shared) => (some (.status update), ⟨shared, true⟩)
      | (.failed fault, shared) => (some (.failed fault), ⟨shared, false⟩)
    else (none, s)
  | .user act => (none, { s with shared := act s.shared })
  | .stop => (none, { s with running := false })

/-- The events that are published while things happen, in order. -/
def run (s : State L) : List (Happening L) → List PollEvent × State L
  | [] => ([], s)
  | h :: rest =>
    let (event, s) := step s h
    let (events, s) := run s rest
    (event.toList ++ events, s)

end Poller

end TimingBoard
