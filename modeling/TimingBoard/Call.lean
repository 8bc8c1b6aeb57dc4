import TimingBoard.Error

/-!
# Calls

A call to the board answers or fails, and leaves a state behind either way: what was written, read
or logged before a failure stays so. Calls are put together one after the other, and the first that
fails ends the rest.
-/

namespace TimingBoard

/-- A call on a state, with the answer or the error and the state after it. -/
def Call (σ α : Type) : Type :=
  σ → Except Error α × σ

namespace Call

variable {σ τ α β : Type}

/-- Runs a call. -/
def run (call : Call σ α) (s : σ) : Except Error α × σ :=
  call s

/-- The call with a given answer. -/
def answer (a : α) : Call σ α :=
  fun s => (.ok a, s)

/-- The call that fails. -/
def fail (e : Error) : Call σ α :=
  fun s => (.error e, s)

/-- One call, and then another if it answers. -/
def andThen (call : Call σ α) (next : α → Call σ β) : Call σ β := fun s =>
  match call s with
  | (.ok a, s) => next a s
  | (.error e, s) => (.error e, s)

instance : Monad (Call σ) where
  pure := answer
  bind := andThen

/-- The call that answers or fails as given. -/
def ofExcept : Except Error α → Call σ α
  | .ok a => answer a
  | .error e => fail e

/-- The call that fails if a request is refused. -/
def ofRequest (request : Except Refusal α) : Call σ α :=
  ofExcept (request.mapError .refused)

/-- The call that answers with a part of the state. -/
def view (f : σ → α) : Call σ α :=
  fun s => (.ok (f s), s)

/-- The call that changes the state. -/
def update (f : σ → σ) : Call σ Unit :=
  fun s => (.ok (), f s)

/-- A call on a part of a larger state. -/
def within (part : τ → σ) (put : σ → τ → τ) (call : Call σ α) : Call τ α := fun t =>
  match call (part t) with
  | (result, s) => (result, put s t)

@[simp] theorem run_pure (a : α) (s : σ) : (pure a : Call σ α).run s = (.ok a, s) := rfl

@[simp] theorem run_fail (e : Error) (s : σ) : (fail e : Call σ α).run s = (.error e, s) := rfl

theorem run_bind (call : Call σ α) (next : α → Call σ β) (s : σ) :
    (call >>= next).run s =
      match call.run s with
      | (.ok a, s) => (next a).run s
      | (.error e, s) => (.error e, s) := rfl

end Call

end TimingBoard
