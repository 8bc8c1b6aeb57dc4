import TimingBoard.Link.Script
import TimingBoard.Proofs.Client.Calls
import TimingBoard.Proofs.Session.Loss

/-!
# Lost connections

A connection is lost in the call during which the link fails, and that call says so.  It is lost for
good: whatever is done with the session from then on fails, reaches neither the link nor the buffer
nor the log, and leaves the session as it is.  A client looks at its tracker only after it was
answered, so that the tracker of a lost connection stays as it is as well.
-/

namespace TimingBoard

variable {α β L : Type}

namespace Dialogue

/-- A dialogue that asks before it does anything else, unless its request is refused. -/
def AsksFirst : Dialogue α → Prop
  | stop (.error e) => ∃ cause, e = .refused cause
  | ask _ _ _ => True
  | stop (.ok _) => False
  | track _ _ => False

lemma AsksFirst.bind {d : Dialogue α} (h : d.AsksFirst) (f : α → Dialogue β) :
    (d >>= f).AsksFirst := by
  change (d.andThen f).AsksFirst
  cases d with
  | stop result =>
    cases result with
    | ok a => exact h.elim
    | error e => exact h
  | ask command silent next => trivial
  | track change next => exact h.elim

lemma AsksFirst.map {d : Dialogue α} (h : d.AsksFirst) (f : α → β) : (f <$> d).AsksFirst :=
  h.bind _

lemma asksFirst_askFor (request : Except Refusal Command) (silent : Bool)
    (kind : Reply → Option α) : (askFor request silent kind).AsksFirst := by
  cases request with
  | error cause => exact ⟨cause, rfl⟩
  | ok command => trivial

/-- Over a lost connection a dialogue that asks first fails, and changes nothing. -/
lemma AsksFirst.follow_run_of_lost [Link L] {d : Dialogue α} (h : d.AsksFirst) {client : Client L}
    (hlost : client.session.connected = false) :
    ∃ e, (e = .notConnected ∨ ∃ cause, e = .refused cause) ∧
      (d.follow Client.overSession).run client = (.error e, client) := by
  cases d with
  | stop result =>
    cases result with
    | ok a => exact h.elim
    | error e => exact ⟨e, Or.inr h, rfl⟩
  | ask command silent next =>
    have hexecute : (Client.overSession.execute command silent).run client =
        (.error .notConnected, client) := by
      rw [Client.overSession, Client.run_onSession, Session.execute_run_of_lost hlost]
    exact ⟨_, Or.inl rfl, Call.run_bind_of_error hexecute⟩
  | track change next => exact h.elim

/-- Writing a configuration asks first: there is always something to write. -/
lemma asksFirst_write (c : Configuration) : (write c).AsksFirst := by
  have hchanges : ∃ change rest, c.plan = change :: rest := by
    refine List.exists_cons_of_ne_nil fun hnil => ?_
    have hautosave : Setting.autosave c.autosave ∈ c.plan := by simp [Configuration.plan]
    simp [hnil] at hautosave
  obtain ⟨change, rest, hplan⟩ := hchanges
  -- A configuration that does not pass its check is refused before anything is asked.
  unfold write
  cases hcheck : c.check with
  | error cause => exact ⟨cause, rfl⟩
  | ok _ =>
    rw [hplan]
    exact (asksFirst_askFor change.request false _).bind _

end Dialogue

open Dialogue in
/-- Every call of a client asks first. -/
lemma ClientCall.asksFirst_dialogue (call : ClientCall) : call.dialogue.AsksFirst := by
  cases call
  case startRun length now => exact ((asksFirst_askFor _ _ _).bind _).map _
  case pollStatus now => exact ((asksFirst_askFor _ _ _).bind _).map _
  case table => exact ((asksFirst_askFor _ _ _).bind _).map _
  case write configuration => exact (asksFirst_write configuration).map _
  case read => exact ((asksFirst_askFor _ _ _).bind _).map _
  all_goals exact (asksFirst_askFor _ _ _).map _

namespace SessionAct

variable [Link L]

/-- **A connection is lost when the link fails, and for good.** Anything is done with a session over
any link. As long as it is connected, an act loses the connection exactly when one of the events of
the act at the link ends it, and fails with the fault of this event; without such an event it does
not fail with a fault of the link. No other error changes whether the session is connected, and a
lost connection stays lost. Once it is lost, every act fails and leaves the session as it is,
nothing happens at the link, and every call of a client of this session fails and leaves the client
as it is, whatever its tracker is. -/
theorem connection_of_runAll (start : Session L) (earlier : List SessionAct) (act : SessionAct) :
    let before := (Call.runAll perform earlier start).2
    let result := (act.perform.run before).1
    let after := (act.perform.run before).2
    (before.connected = true →
      (after.connected = false ↔ ∃ event ∈ act.events before, event.loss?.isSome) ∧
      ∀ fault, result = .error (.network fault) ↔
        ∃ event ∈ act.events before, event.loss? = some fault) ∧
    (∀ e, result = .error e → e.losesConnection = false → after.connected = before.connected) ∧
    (before.connected = false → after.connected = false) ∧
    (after.connected = false →
      (∀ later,
        Call.runAll perform later after = (later.map fun next => .error next.lostError, after)) ∧
      (∀ next : SessionAct, next.events after = []) ∧
      ∀ (tracker : RunTracker) (call : ClientCall),
        ∃ e, (e = .notConnected ∨ ∃ cause, e = .refused cause) ∧
          call.perform.run ⟨after, tracker⟩ = (.error e, ⟨after, tracker⟩)) := by
  intro before result after
  have hresult : result = (act.perform.run before.observed).1 :=
    congrArg Prod.fst (act.perform_run before)
  have hafter : after.connected = (act.perform.run before.observed).2.connected :=
    congrArg (fun outcome => outcome.2.connected) (act.perform_run before)
  have hreported (h : before.connected = true) := act.reports_perform before.observed h
  have hlost (h : before.connected = false) : after.connected = false := by
    simp [after, act.perform_run_of_lost h, h]
  refine ⟨fun h => ⟨?_, fun fault => ?_⟩, fun e herror hspares => ?_, hlost, fun h => ⟨?_, ?_, ?_⟩⟩
  · rw [hafter]
    exact (hreported h).lost_iff rfl
  · rw [hresult]
    exact (hreported h).eq_network_iff rfl fault
  · cases hbefore : before.connected with
    | false => exact hlost hbefore
    | true => exact hafter.trans ((hreported hbefore).connected_of_error (hresult ▸ herror) hspares)
  · exact fun later => runAll_of_lost later h
  · exact fun next => next.events_of_lost h
  · intro tracker call
    rw [call.perform_eq_follow]
    exact call.asksFirst_dialogue.follow_run_of_lost h

/-- A server that accepts a change, answers a question for its agents by the first of two, and
closes the link. -/
def closingSession : Session Script :=
  ⟨{ Script.ofChunks ["ACK\r\nVAL AGENTS 2\r\nVAL AGENT 1 a:b:c:d:e:f\r\n".toList.map fun c =>
    c.val.toUInt8] with closing := true }, .empty, Session.defaultWait, true, .empty⟩

/-- The connection is lost in the middle of the list. -/
theorem connection_of_runAll_closingSession :
    let act := SessionAct.executeLine "GET AGENTS".toList false
    let before := (Call.runAll perform [.executeLine "SET TT 10s".toList true] closingSession).2
    let after := (act.perform.run before).2
    let later := [readFrame, .executeLine "GET TT".toList false, .executeLine "TT".toList false]
    before.connected = true ∧ (act.perform.run before).1 = .error (.network .closedByPeer) ∧
      after.connected = false ∧
      Call.runAll perform later after = (later.map fun next => .error next.lostError, after) := by
  intro act before after later
  have hconnected : before.connected = true := by decide +kernel
  have hlost : after.connected = false := by decide +kernel
  have hloss : ∃ event ∈ act.events before, event.loss? = some .closedByPeer := by
    decide +kernel
  obtain ⟨hstep, -, -, hinert⟩ := connection_of_runAll closingSession
    [.executeLine "SET TT 10s".toList true] act
  exact ⟨hconnected, ((hstep hconnected).2 _).2 hloss, hlost, (hinert hlost).1 later⟩

end SessionAct

end TimingBoard
