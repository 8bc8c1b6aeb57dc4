import Mathlib.Control.Monad.Basic
import TimingBoard.Board.Connection
import TimingBoard.Proofs.Session.Loss

/-!
# What an error says of the connection

An error says whether the connection is lost, and the session knows it too.  Whoever is told of the
error and whoever asks the session should come to the same view.

They do after every command, and after every wait for a frame: a connection is lost by the fault
that the call fails with, and a call that fails otherwise leaves it as it was.  A new wait is
different.  When the link refuses it, the call fails with the fault of the link, as if the
connection were lost, but the session stays connected and goes on.  And a typed line that is no
command is refused before the session is looked at, so that its refusal says nothing of a connection
that was lost before.  These are the only two cases in which the two views differ.
-/

namespace TimingBoard

variable {L α : Type}

deriving instance DecidableEq for SessionAnswer

/-- Something that is done with a session, or a new wait for its reads. -/
inductive SessionUse where
  | act (what : SessionAct)
  | setWait (wait : Span)

namespace Session

/-- A session that is connected exactly if an error does not say that the connection is lost. -/
def AgreesWith (s : Session L) (e : Error) : Prop :=
  s.connected = false ↔ e.losesConnection = true

/-- A call that reports what happened at the link fails with an error that the session agrees
with. -/
lemma Reported.agreesWith {s s' : Session (Observed L)} {result : Except Error α} {e : Error}
    (h : Reported s s' result) (hresult : result = .error e) : s'.AgreesWith e := by
  cases h with
  | kept events _ _ hconnected hspares =>
    have hkeeps : e.losesConnection = false := hspares e hresult
    simp [AgreesWith, hconnected, hkeeps]
  | lost events event fault _ _ _ hconnected hnetwork =>
    obtain rfl : Error.network fault = e := Except.error.inj (hnetwork.symm.trans hresult)
    exact ⟨fun _ => rfl, fun _ => hconnected⟩

variable [Link L] {s : Session L}

/-- A wait that is refused fails with the fault of the link, and leaves the session as it is apart
from its link. -/
lemma setWait_run_of_error {wait : Span} {e : Error} (h : ((setWait wait).run s).1 = .error e) :
    ∃ fault link, Link.setWait wait s.link = (.error fault, link) ∧ e = .network fault ∧
      ((setWait wait).run s).2 = { s with link := link } := by
  rcases hset : Link.setWait wait s.link with ⟨fault | ⟨⟩, link⟩
  · have hrun : (setWait wait).run s = (.error (.network fault), { s with link := link }) := by
      simp [setWait, Call.run, hset]
    rw [hrun] at h ⊢
    exact ⟨fault, link, rfl, (Except.error.inj h).symm, rfl⟩
  · have hrun : (setWait wait).run s = (.ok (), { s with link := link, wait := wait }) := by
      simp [setWait, Call.run, hset]
    rw [hrun] at h
    cases h

end Session

namespace SessionAct

variable [Link L] {s : Session L} {act : SessionAct} {e : Error}

/-- While a session is connected, it agrees with every error of an act. -/
lemma agreesWith_of_connected (hs : s.connected = true) (h : (act.perform.run s).1 = .error e) :
    (act.perform.run s).2.AgreesWith e := by
  rw [act.perform_run s] at h ⊢
  exact (act.reports_perform s.observed hs).agreesWith h

/-- Once the connection is lost, an act fails for that reason, unless it is a typed line that is
refused. -/
lemma lostError_cases (act : SessionAct) :
    act.lostError = .notConnected ∨
      ∃ typed silent cause, act = executeLine typed silent ∧ Command.read typed = .error cause ∧
        act.lostError = .refused cause := by
  cases act with
  | executeLine typed silent =>
    cases hread : Command.read typed with
    | error cause => exact Or.inr ⟨typed, silent, cause, rfl, hread, by simp [lostError, hread]⟩
    | ok command => exact Or.inl (by simp [lostError, hread])
  | _ => exact Or.inl rfl

end SessionAct

namespace SessionUse

open Session

/-- The call of a use. -/
def perform [Link L] : SessionUse → Call (Session L) (Option SessionAnswer)
  | act what => some <$> what.perform
  | setWait wait => (fun _ => none) <$> Session.setWait wait

/-- A use whose error says something else of the connection than the session: a new wait that is
refused to a connected session, and a typed line that is refused when the connection is lost. -/
def IsMisjudged : SessionUse → Session L → Prop
  | setWait _, s => s.connected = true
  | act (.executeLine typed _), s => s.connected = false ∧ ∃ cause,
      Command.read typed = .error cause
  | act _, _ => False

variable [Link L] {s : Session L} {e : Error}

/-- The session agrees with the error of an act, unless it is misjudged. -/
lemma agreesWith_act_iff {what : SessionAct} (h : (what.perform.run s).1 = .error e) :
    (what.perform.run s).2.AgreesWith e ↔ ¬ (act what).IsMisjudged s := by
  cases hs : s.connected with
  | true =>
    refine iff_of_true (SessionAct.agreesWith_of_connected hs h) ?_
    cases what <;> simp [IsMisjudged, hs]
  | false =>
    rw [what.perform_run_of_lost hs] at h ⊢
    obtain rfl : what.lostError = e := Except.error.inj h
    rcases what.lostError_cases with herror | ⟨typed, silent, cause, rfl, hread, herror⟩
    · refine iff_of_true ?_ ?_
      · simp [AgreesWith, hs, herror, Error.losesConnection]
      · cases what with
        | executeLine typed silent =>
          rintro ⟨-, cause, hread⟩
          simp [SessionAct.lostError, hread] at herror
        | _ => exact id
    · refine iff_of_false ?_ ?_
      · simp [AgreesWith, hs, herror, Error.losesConnection]
      · exact fun hright => hright ⟨hs, cause, hread⟩

/-- **An error and the session agree on the connection.** Anything is done with a session over any
link, and then a use of it fails.  The session has then lost its connection exactly if the error
says so, unless the link refused a new wait to a connected session, or a typed line was refused when
the connection was lost before.  A wait is refused with the fault of the link, which says that the
connection is lost, but the session is as it was before apart from its link. -/
theorem agreesWith_iff (start : Session L) (earlier : List SessionUse) (use : SessionUse)
    (e : Error) :
    let before := (Call.runAll perform earlier start).2
    let after := (use.perform.run before).2
    (use.perform.run before).1 = .error e →
      ((after.connected = false ↔ e.losesConnection = true) ↔ ¬ use.IsMisjudged before) ∧
      ∀ wait, use = setWait wait → ∃ fault link,
        Link.setWait wait before.link = (.error fault, link) ∧ e = .network fault ∧
          e.losesConnection = true ∧ after = { before with link := link } := by
  intro before after herror
  cases use with
  | act what =>
    have hact : (what.perform.run before).1 = .error e := Call.run_map_eq_error.1 herror
    have hafter : after = (what.perform.run before).2 := Call.run_map_snd _ _ _
    refine ⟨?_, fun wait hwait => by cases hwait⟩
    rw [hafter]
    exact agreesWith_act_iff hact
  | setWait wait =>
    obtain ⟨fault, link, hset, rfl, hrun⟩ := setWait_run_of_error (Call.run_map_eq_error.1 herror)
    have hafter : after = { before with link := link } := (Call.run_map_snd _ _ _).trans hrun
    constructor
    · rw [hafter]
      simp [IsMisjudged, Error.losesConnection]
    · intro other hother
      obtain rfl : wait = other := setWait.inj hother
      exact ⟨fault, link, hset, rfl, rfl, hafter⟩

/-- A session over a board that is mute. -/
def muteSession : Session Connection :=
  ⟨.toBoard { Board.atRest with mute := true } ⟨0⟩, .empty, Session.defaultWait, true, .empty⟩

/-- A wait of no time is refused, and the session goes on: the next command runs out of time, which
the session agrees with. -/
theorem agreesWith_iff_muteBoard :
    let use := SessionUse.act (.executeLine "MSR STATUS".toList true)
    let before := (Call.runAll perform [setWait .zero] muteSession).2
    let after := (use.perform.run before).2
    (use.perform.run before).1 = .error .timeout ∧ ¬ use.IsMisjudged before ∧
      (after.connected = false ↔ Error.timeout.losesConnection = true) := by
  intro use before after
  have herror : (use.perform.run before).1 = .error .timeout := by decide +kernel
  have hright : ¬ use.IsMisjudged before := fun h => absurd h.1 (by decide +kernel)
  have hagrees := (agreesWith_iff muteSession [setWait .zero] use .timeout herror).1
  exact ⟨herror, hright, hagrees.2 hright⟩

/-- A wait of no time fails with an error that says that the connection is lost, but the session
stays connected. -/
theorem not_agreesWith_emptyWait :
    let result := (setWait .zero).perform.run muteSession
    result.1 = .error (.network Connection.emptyWait) ∧
      (Error.network Connection.emptyWait).losesConnection = true ∧
      result.2.connected = true := by
  intro result
  exact ⟨by decide +kernel, rfl, by decide +kernel⟩

end SessionUse

end TimingBoard
