import TimingBoard.Client.Configuration
import TimingBoard.Proofs.Board.Answer
import TimingBoard.Proofs.Request.Making

/-!
# What a call of a client asks

A call of a client is a dialogue: it executes a command, looks at the reply, and goes on from there,
until it answers or fails.  On its way it may also look at the tracker and change it.  Written down
as a tree the dialogue says nothing of how a command is executed.  Following it with the session of
a client gives the call, and following it with another executor says what the call would be with
that one.

All calls of a client are dialogues.  None but the start of a run, and a line that is typed, makes
the board start a run.
-/

namespace TimingBoard

variable {α β σ L : Type}

namespace Call

lemma bind_assoc {γ : Type} (call : Call σ α) (f : α → Call σ β) (g : β → Call σ γ) :
    (call >>= f) >>= g = call >>= fun a => f a >>= g := by
  funext s
  rcases hcall : call.run s with ⟨_ | a, s'⟩
  · exact (run_bind_of_error (run_bind_of_error hcall)).trans (run_bind_of_error hcall).symm
  · have hleft : ((call >>= f) >>= g).run s = (f a >>= g).run s' := by
      rw [run_bind, run_bind_of_ok hcall, run_bind]
    have hright : (call >>= fun a => f a >>= g).run s = (f a >>= g).run s' := run_bind_of_ok hcall
    exact hleft.trans hright.symm

lemma bind_pure (call : Call σ α) : (call >>= fun a => pure a) = call := by
  funext s
  rcases hcall : call.run s with ⟨_ | a, s'⟩
  · exact (run_bind_of_error hcall).trans hcall.symm
  · exact (run_bind_of_ok hcall).trans hcall.symm

end Call

/-- A call on the session leaves the tracker alone. -/
lemma Client.run_onSession (call : Call (Session L) α) (client : Client L) :
    (onSession call).run client =
      ((call.run client.session).1, { client with session := (call.run client.session).2 }) := rfl

/-- What a call does, as a tree: a result, a command whose reply decides how it goes on, or a look
at the tracker that may change it. -/
inductive Dialogue (α : Type) where
  | stop (result : Except Error α)
  | ask (command : Command) (silent : Bool) (next : Reply → Dialogue α)
  | track (change : RunTracker → RunTracker) (next : RunTracker → Dialogue α)

namespace Dialogue

/-- One dialogue, and then another if it answers. -/
def andThen : Dialogue α → (α → Dialogue β) → Dialogue β
  | stop (.ok a), f => f a
  | stop (.error e), _ => stop (.error e)
  | ask command silent next, f => ask command silent fun reply => (next reply).andThen f
  | track change next, f => track change fun tracker => (next tracker).andThen f

instance : Monad Dialogue where
  pure a := stop (.ok a)
  bind := andThen

/-- The dialogue that fails if a request is refused. -/
def ofRequest (request : Except Refusal α) : Dialogue α :=
  stop (request.mapError .refused)

/-- Executes a request and takes a reply of one kind. -/
def askFor (request : Except Refusal Command) (silent : Bool) (kind : Reply → Option α) :
    Dialogue α := do
  let command ← ofRequest request
  ask command silent fun reply =>
    match kind reply with
    | some a => pure a
    | none => stop (.error (.unexpectedReply command reply))

/-- Executes a request that only has to be accepted. -/
def tell (request : Except Refusal Command) : Dialogue Unit :=
  askFor request false fun
    | .ack => some ()
    | _ => none

end Dialogue

/-- A way to execute commands and to change the tracker; a change gives the tracker before it. -/
structure Executor (σ : Type) where
  execute : Command → Bool → Call σ Reply
  track : (RunTracker → RunTracker) → Call σ RunTracker

namespace Dialogue

/-- The call of a dialogue with an executor. -/
def follow (executor : Executor σ) : Dialogue α → Call σ α
  | stop result => Call.ofExcept result
  | ask command silent next => do
    let reply ← executor.execute command silent
    (next reply).follow executor
  | track change next => do
    let tracker ← executor.track change
    (next tracker).follow executor

/-! ## Following dialogues -/

variable {executor : Executor σ}

/-- Two dialogues one after the other are two calls one after the other. -/
lemma follow_bind (d : Dialogue α) (f : α → Dialogue β) :
    (d >>= f).follow executor = d.follow executor >>= fun a => (f a).follow executor := by
  change (d.andThen f).follow executor = _
  induction d with
  | stop result => cases result <;> rfl
  | ask command silent next ih =>
    simp only [andThen, follow, ih, Call.bind_assoc]
  | track change next ih => simp only [andThen, follow, ih, Call.bind_assoc]

lemma follow_map (f : α → β) (d : Dialogue α) :
    (f <$> d).follow executor = f <$> d.follow executor :=
  follow_bind d fun a => pure (f a)

/-- A request takes the reply to its command if it is of the right kind, and fails otherwise. -/
lemma follow_askFor_run (executor : Executor σ) {request : Except Refusal Command}
    {command : Command} (h : request = .ok command) (silent : Bool) (kind : Reply → Option α)
    (s : σ) :
    let after := (executor.execute command silent).run s
    (∃ reply a, after.1 = .ok reply ∧ kind reply = some a ∧
        ((askFor request silent kind).follow executor).run s = (.ok a, after.2)) ∨
      ∃ e, ((askFor request silent kind).follow executor).run s = (.error e, after.2) := by
  intro after
  have hask : (askFor request silent kind).follow executor =
      executor.execute command silent >>= fun reply =>
        (match kind reply with
          | some a => pure a
          | none => stop (.error (.unexpectedReply command reply)) :
          Dialogue α).follow executor := by
    rw [h]
    rfl
  rcases hrun : (executor.execute command silent).run s with ⟨e | reply, s'⟩
  · have hafter : after = (.error e, s') := hrun
    rw [hask, hafter]
    exact Or.inr ⟨e, Call.run_bind_of_error hrun⟩
  · have hafter : after = (.ok reply, s') := hrun
    rw [hask, hafter, Call.run_bind_of_ok hrun]
    cases hkind : kind reply with
    | none => exact Or.inr ⟨_, rfl⟩
    | some a => exact Or.inl ⟨reply, a, rfl, hkind, rfl⟩

/-- A request that only has to be accepted succeeds when it is. -/
lemma follow_tell_run (executor : Executor σ) {request : Except Refusal Command} {command : Command}
    (h : request = .ok command) (s : σ) :
    let after := (executor.execute command false).run s
    (after.1 = .ok .ack ∧ ((tell request).follow executor).run s = (.ok (), after.2)) ∨
      ∃ e, ((tell request).follow executor).run s = (.error e, after.2) := by
  intro after
  let kind : Reply → Option Unit := fun
    | .ack => some ()
    | _ => none
  rcases follow_askFor_run executor h false kind s with ⟨reply, a, hreply, hkind, hrun⟩ | hfail
  · have hack : reply = .ack := by cases reply <;> simp [kind] at hkind ⊢
    exact Or.inl ⟨hreply.trans (congrArg _ hack), hrun⟩
  · exact Or.inr hfail

end Dialogue

namespace Client

/-- Changes the tracker of a client. -/
def track (change : RunTracker → RunTracker) : Call (Client L) RunTracker := fun client =>
  (.ok client.tracker, { client with tracker := change client.tracker })

/-- A client executes commands over its session. -/
def overSession [Link L] : Executor (Client L) where
  execute command silent := onSession (Session.execute command silent)
  track := track

end Client

namespace Dialogue

open Client

variable [Link L]

lemma follow_ofRequest (request : Except Refusal α) :
    (ofRequest request).follow (overSession (L := L)) = Call.ofRequest request := rfl

lemma follow_askFor (request : Except Refusal Command) (silent : Bool) (kind : Reply → Option α) :
    (askFor request silent kind).follow (overSession (L := L)) =
      Client.ask request silent kind := by
  rw [askFor, follow_bind, follow_ofRequest]
  refine congrArg (Call.ofRequest request >>= ·) (funext fun command => ?_)
  refine congrArg (onSession (Session.execute command silent) >>= ·) (funext fun reply => ?_)
  dsimp only
  cases kind reply <;> rfl

lemma follow_tell (request : Except Refusal Command) :
    (tell request).follow (overSession (L := L)) = Client.tell request :=
  follow_askFor request false _

end Dialogue

namespace Client

variable [Link L]

/-- A look at the status executes its command. A reply with a status is taken note of, and a look
that fails leaves the tracker alone. -/
lemma pollStatus_run_cases {c : Command} (hmake : Command.make .measure "STATUS".toList = .ok c)
    (now : Instant) (client : Client L) :
    let after := (Session.execute c true).run client.session
    (∃ status, after.1 = .ok (.status status) ∧ (pollStatus now).run client =
        (.ok (client.tracker.observe status now).1,
          ⟨after.2, (client.tracker.observe status now).2⟩)) ∨
      ∃ e, (pollStatus now).run client = (.error e, { client with session := after.2 }) := by
  have hask := Dialogue.follow_askFor_run overSession hmake true statusOf? client
  rw [Dialogue.follow_askFor] at hask
  rcases hask with ⟨reply, status, hreply, hkind, hrun⟩ | ⟨e, hrun⟩
  · have hstatus : reply = .status status := by
      cases reply <;> simp only [statusOf?, reduceCtorEq, Option.some.injEq] at hkind
      rw [hkind]
    exact Or.inl ⟨status, hreply.trans (congrArg _ hstatus), Call.run_bind_of_ok hrun⟩
  · exact Or.inr ⟨e, Call.run_bind_of_error hrun⟩

/-- A look at the status leaves the session as its command leaves it. -/
lemma session_pollStatus {c : Command} (hmake : Command.make .measure "STATUS".toList = .ok c)
    (now : Instant) (client : Client L) : ((pollStatus now).run client).2.session =
      ((Session.execute c true).run client.session).2 := by
  rcases pollStatus_run_cases hmake now client with ⟨status, -, hrun⟩ | ⟨e, hrun⟩ <;> rw [hrun]

end Client

namespace Dialogue

/-! ## Starting runs -/

/-- A dialogue whose commands start at most a number of runs. -/
def StartsAtMost : Nat → Dialogue α → Prop
  | _, stop _ => True
  | runs, ask command _ next =>
    command.startCount ≤ runs ∧ ∀ reply, StartsAtMost (runs - command.startCount) (next reply)
  | runs, track _ next => ∀ tracker, StartsAtMost runs (next tracker)

lemma StartsAtMost.mono {d : Dialogue α} {runs more : Nat} (h : d.StartsAtMost runs)
    (hle : runs ≤ more) : d.StartsAtMost more := by
  induction d generalizing runs more with
  | stop result => trivial
  | ask command silent next ih =>
    exact ⟨h.1.trans hle, fun reply => ih reply (h.2 reply) (by omega)⟩
  | track change next ih => exact fun tracker => ih tracker (h tracker) hle

/-- Two dialogues together start as many runs as both of them. -/
lemma StartsAtMost.bind {d : Dialogue α} {f : α → Dialogue β} {runs more : Nat}
    (h : d.StartsAtMost runs) (hf : ∀ a, (f a).StartsAtMost more) :
    (d >>= f).StartsAtMost (runs + more) := by
  change (d.andThen f).StartsAtMost (runs + more)
  induction d generalizing runs with
  | stop result =>
    cases result with
    | ok a => exact (hf a).mono (Nat.le_add_left _ _)
    | error e => trivial
  | ask command silent next ih =>
    refine ⟨h.1.trans (Nat.le_add_right _ _), fun reply => ?_⟩
    have hnext := ih reply (h.2 reply)
    rwa [← Nat.sub_add_comm h.1] at hnext
  | track change next ih => exact fun tracker => ih tracker (h tracker)

/-- A dialogue that goes on without a start starts no more runs. -/
lemma StartsAtMost.bind_of_zero {d : Dialogue α} {f : α → Dialogue β} {runs : Nat}
    (h : d.StartsAtMost runs) (hf : ∀ a, (f a).StartsAtMost 0) : (d >>= f).StartsAtMost runs :=
  h.bind hf

lemma StartsAtMost.map {d : Dialogue α} {runs : Nat} (h : d.StartsAtMost runs) (f : α → β) :
    (f <$> d).StartsAtMost runs :=
  h.bind_of_zero fun _ => trivial

/-- A request starts as many runs as its command. -/
lemma startsAtMost_askFor {request : Except Refusal Command} {silent : Bool}
    {kind : Reply → Option α} {runs : Nat} (h : ∀ c, request = .ok c → c.startCount ≤ runs) :
    (askFor request silent kind).StartsAtMost runs := by
  cases request with
  | error cause => trivial
  | ok command =>
    refine ⟨h command rfl, fun reply => ?_⟩
    dsimp only
    cases kind reply <;> trivial

end Dialogue

namespace Command

lemma startCount_le_one (c : Command) : c.startCount ≤ 1 := by
  unfold startCount
  split <;> simp

/-- A command that changes or reads a setting starts no run. -/
lemma startCount_of_verb {c : Command} (h : c.verb ≠ .measure) : c.startCount = 0 := by
  simp [startCount, h]

/-- A command whose argument does not begin with the word for a start starts no run. -/
lemma startCount_of_make {verb : Verb} {argument : Text} {c : Command}
    (h : make verb argument = .ok c) (hspace : ∀ a ∈ argument.head?, Text.isSpace a = false)
    (hstart : ¬ "START".toList <+: argument) : c.startCount = 0 := by
  refine if_neg fun hkey => hstart ?_
  rw [← hkey.2]
  exact key_isPrefix_of_make h hspace

end Command

end TimingBoard
