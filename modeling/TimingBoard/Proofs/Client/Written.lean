import TimingBoard.Proofs.Client.Executed
import TimingBoard.Proofs.Client.Lost
import TimingBoard.Proofs.Request.Stream
import TimingBoard.Proofs.Session.Written

/-!
# What a client writes

A client writes what its session writes: the commands that its calls execute, and those that are
sent when somebody uses its session directly.  Each is a line of its own on the way to the board.
So what was written says exactly which commands were sent, in which order: no argument of a call,
whatever text it is, can put a second command into the line of the first.  A call whose request is
refused writes nothing.

As in the account of a lost connection the link is observed, which changes nothing of what is done
over it.
-/

namespace TimingBoard

variable {α L : Type}

namespace Client

/-- A client whose link is observed from now on. -/
def observed (client : Client L) : Client (Observed L) :=
  ⟨client.session.observed, client.tracker⟩

/-- A client without the account of its link. -/
def unobserved (client : Client (Observed L)) : Client L :=
  ⟨client.session.unobserved, client.tracker⟩

end Client

namespace Dialogue

variable [Link L]

/-- A dialogue goes the same way whether the link is observed or not. -/
lemma watches_follow (d : Dialogue α) (client : Client (Observed L)) :
    (d.follow Client.overSession).run client.unobserved =
        (((d.follow Client.overSession).run client).1,
          ((d.follow Client.overSession).run client).2.unobserved) ∧
      d.executed Client.overSession client.unobserved = d.executed Client.overSession client := by
  induction d generalizing client with
  | stop result => exact ⟨by simp [follow], rfl⟩
  | ask command silent next ih =>
    have hplain : (Client.overSession.execute command silent).run client.unobserved =
        (((Client.overSession.execute command silent).run client).1,
          ((Client.overSession.execute command silent).run client).2.unobserved) := by
      have hsession := Session.watches_execute command silent client.session
      simp only [Client.overSession, Client.run_onSession, Client.unobserved, hsession]
    rcases hrun : (Client.overSession.execute command silent).run client with ⟨e | reply, client'⟩
    · rw [hrun] at hplain
      simp [follow, executed, Call.run_bind_of_error hrun, Call.run_bind_of_error hplain, hrun,
        hplain]
    · rw [hrun] at hplain
      simp [follow, executed, Call.run_bind_of_ok hrun, Call.run_bind_of_ok hplain, hrun, hplain,
        ih reply client']
  | track change next ih =>
    exact ih client.tracker { client with tracker := change client.tracker }

/-- A lost connection stays lost. -/
lemma keeps_lost (d : Dialogue α) :
    Call.Keeps (fun client : Client L => client.session.connected = false)
      (d.follow Client.overSession) := by
  refine keeps_follow d.asksOnly_true (fun command silent _ client hlost => ?_)
    fun change client hlost => hlost
  rwa [Client.overSession, Client.run_onSession, Session.execute_run_of_lost hlost]

/-- A client that is connected after a dialogue has written the commands that were executed. -/
lemma written_follow {d : Dialogue α} {client : Client (Observed L)}
    (h : ((d.follow Client.overSession).run client).2.session.connected = true) :
    ((d.follow Client.overSession).run client).2.session.written = client.session.written ++
      ((d.executed Client.overSession client).map Executed.command).flatMap Command.encode := by
  induction d generalizing client with
  | stop result => simp [follow, executed]
  | ask command silent next ih =>
    have hwritten (hconnected :
        ((Client.overSession.execute command silent).run client).2.session.connected = true) :
        ((Client.overSession.execute command silent).run client).2.session.written =
          client.session.written ++ command.encode :=
      Session.written_execute command silent hconnected
    rcases hrun : (Client.overSession.execute command silent).run client with ⟨e | reply, client'⟩
    · rw [hrun] at hwritten
      rw [follow, Call.run_bind_of_error hrun] at h ⊢
      simp [executed, hrun, hwritten h]
    · rw [hrun] at hwritten
      rw [follow, Call.run_bind_of_ok hrun] at h ⊢
      -- The connection was not lost by the command, for it would have stayed lost.
      have hconnected : client'.session.connected = true := by
        by_contra hlost
        have hafter : (((next reply).follow Client.overSession).run client').2.session.connected =
            false :=
          (next reply).keeps_lost client' (Bool.eq_false_iff.2 hlost)
        simp [h] at hafter
      simp [executed, hrun, ih reply h, hwritten hconnected]
  | track change next ih => exact ih client.tracker h

end Dialogue

/-! ## Uses of a client -/

/-- Something that is done with a client: one of its calls, or a use of its session. -/
inductive ClientUse where
  | call (what : ClientCall)
  | session (use : SessionUse)

namespace ClientUse

variable [Link L]

/-- The call of a use. -/
def perform : ClientUse → Call (Client L) (Answer ⊕ Option SessionAnswer)
  | call what => .inl <$> what.perform
  | session use => .inr <$> Client.onSession use.perform

/-- The commands that are sent for a use. -/
def sent (client : Client L) : ClientUse → List Command
  | call what => (what.dialogue.executed Client.overSession client).map Executed.command
  | session use => use.sent

/-- The commands that are sent for uses one after the other. -/
def sentAll : List ClientUse → Client L → List Command
  | [], _ => []
  | use :: rest, client => use.sent client ++ sentAll rest (use.perform.run client).2

/-- What is written for uses one after the other. -/
def written (uses : List ClientUse) (client : Client L) : Bytes :=
  (Call.runAll perform uses client.observed).2.session.written

/-- A use for which one command is sent at most. -/
def IsSingle : ClientUse → Prop
  | call what => what.IsSingle
  | session _ => True

/-- A use that writes no configuration but one whose times are made. -/
def HasMadeTimes : ClientUse → Prop
  | call what => what.HasMadeTimes
  | session _ => True

/-- A use goes the same way whether the link is observed or not. -/
lemma watches_perform (use : ClientUse) (client : Client (Observed L)) :
    use.perform.run client.unobserved =
        ((use.perform.run client).1, (use.perform.run client).2.unobserved) ∧
      use.sent client.unobserved = use.sent client := by
  cases use with
  | call what =>
    obtain ⟨hrun, hexecuted⟩ := what.dialogue.watches_follow client
    simp [perform, sent, Call.run_map, what.perform_eq_follow, hrun, hexecuted]
  | session use =>
    have hrun := use.watches_perform client.session
    simp [perform, sent, Call.run_map, Client.run_onSession, Client.unobserved, hrun]

lemma watches_runAll (uses : List ClientUse) (client : Client (Observed L)) :
    (Call.runAll perform uses client.unobserved).2 =
        (Call.runAll perform uses client).2.unobserved ∧
      sentAll uses client.unobserved = sentAll uses client := by
  induction uses generalizing client with
  | nil => exact ⟨rfl, rfl⟩
  | cons use rest ih =>
    obtain ⟨hrun, hsent⟩ := use.watches_perform client
    simp only [Call.runAll_cons, sentAll, hrun, hsent, ih]
    trivial

/-- A lost connection stays lost. -/
lemma keeps_lost (use : ClientUse) :
    Call.Keeps (fun client : Client L => client.session.connected = false) use.perform := by
  intro client hlost
  cases use with
  | call what =>
    rw [perform, Call.run_map_snd, what.perform_eq_follow]
    exact what.dialogue.keeps_lost client hlost
  | session use =>
    rw [perform, Call.run_map_snd, Client.run_onSession]
    exact use.keeps_lost client.session hlost

/-- A client that is connected after a use has written the commands of the use. -/
lemma written_perform {use : ClientUse} {client : Client (Observed L)}
    (h : (use.perform.run client).2.session.connected = true) :
    (use.perform.run client).2.session.written =
      client.session.written ++ (use.sent client).flatMap Command.encode := by
  cases use with
  | call what =>
    rw [perform, Call.run_map_snd, what.perform_eq_follow] at h ⊢
    exact Dialogue.written_follow h
  | session use =>
    rw [perform, Call.run_map_snd, Client.run_onSession] at h ⊢
    exact use.written_perform h

/-- A connection that is lost stays lost, whatever is done. -/
lemma lost_of_runAll (uses : List ClientUse) {client : Client L}
    (h : client.session.connected = false) :
    (Call.runAll perform uses client).2.session.connected = false :=
  Call.keeps_runAll (P := fun client => client.session.connected = false) perform
    keeps_lost uses h

/-- A client that is connected after all uses has written the commands of all of them, one after the
other. -/
lemma written_runAll {uses : List ClientUse} {client : Client (Observed L)}
    (h : (Call.runAll perform uses client).2.session.connected = true) :
    (Call.runAll perform uses client).2.session.written =
      client.session.written ++ (sentAll uses client).flatMap Command.encode := by
  induction uses generalizing client with
  | nil => simp [sentAll]
  | cons use rest ih =>
    rw [Call.runAll_cons] at h ⊢
    have hconnected : (use.perform.run client).2.session.connected = true := by
      by_contra hlost
      simp [lost_of_runAll rest (Bool.eq_false_iff.2 hlost)] at h
    rw [ih h, use.written_perform hconnected, sentAll, List.flatMap_append, List.append_assoc]

/-- What is written while the connection lasts is what is sent. -/
lemma written_eq {uses : List ClientUse} {client : Client L}
    (h : (Call.runAll perform uses client).2.session.connected = true) :
    written uses client = (sentAll uses client).flatMap Command.encode := by
  obtain ⟨hrun, hsent⟩ := watches_runAll uses client.observed
  have hobserved : (Call.runAll perform uses client.observed).2.session.connected = true := by
    have hsame := congrArg (fun after => after.session.connected) hrun
    exact hsame.symm.trans h
  have hall : sentAll uses client.observed = sentAll uses client := hsent.symm
  rw [written, written_runAll hobserved, hall, Client.observed, Session.written_observed,
    List.nil_append]

/-- A use that is refused does nothing. -/
lemma HasMadeTimes.run_of_refused {use : ClientUse} (h : use.HasMadeTimes) {client : Client L}
    {cause : Refusal} (hrefused : (use.perform.run client).1 = .error (.refused cause)) :
    (use.perform.run client).2 = client := by
  cases use with
  | call what =>
    have hcall := Call.run_map_eq_error.1 hrefused
    rw [perform, Call.run_map_snd, what.perform_eq_follow]
    rw [what.perform_eq_follow] at hcall
    exact (h.refusesFirst.of_refused hcall).2
  | session use =>
    have hcall := Call.run_map_eq_error.1 hrefused
    rw [Client.run_onSession] at hcall
    rw [perform, Call.run_map_snd, Client.run_onSession, use.run_of_refused hcall]

lemma IsSingle.length_sent_le {use : ClientUse} (h : use.IsSingle) (client : Client L) :
    (use.sent client).length ≤ 1 := by
  cases use with
  | call what =>
    rw [sent, List.length_map]
    exact h.length_executed_le client
  | session use => exact use.length_sent_le

/-- **What is written says what was sent.** A client over any link makes any calls, with any
arguments, and somebody uses its session besides. As long as it is connected, the bytes that it has
written are made of lines, none of which holds a carriage return, and reading a command from each
line gives the commands that were sent, in order. Whatever is done next, nothing is written for it
if it is refused, and the client is as it was before; the times of a configuration are made here, as
all times are. And one line at most is written for it, unless it is a table or a configuration is
written or read. -/
theorem commands_of_written (client : Client L) (uses : List ClientUse) :
    let after := (Call.runAll perform uses client).2
    (after.session.connected = true →
      IsLines (written uses client) ∧
      Command.readAll? (written uses client) = some (sentAll uses client)) ∧
    ∀ use : ClientUse,
      (use.HasMadeTimes → ∀ cause, (use.perform.run after).1 = .error (.refused cause) →
        written [use] after = [] ∧ (use.perform.run after).2 = after) ∧
      (use.IsSingle → (use.perform.run after).2.session.connected = true →
        written [use] after = [] ∨ ∃ command : Command, written [use] after = command.encode) := by
  intro after
  refine ⟨fun hconnected => ?_,
    fun use => ⟨fun hmade cause hrefused => ?_, fun hsingle hlast => ?_⟩⟩
  · rw [written_eq hconnected]
    exact ⟨Command.isLines_flatMap_encode _, Command.readAll?_flatMap_encode _⟩
  · have hobserved : (use.perform.run after.observed).1 = .error (.refused cause) := by
      have hsame := congrArg Prod.fst (use.watches_perform after.observed).1
      exact hsame.symm.trans hrefused
    refine ⟨?_, hmade.run_of_refused hrefused⟩
    rw [written, Call.runAll_cons, Call.runAll_nil, hmade.run_of_refused hobserved, Client.observed,
      Session.written_observed]
  · have hwritten : written [use] after = (sentAll [use] after).flatMap Command.encode :=
      written_eq hlast
    rw [sentAll, sentAll, List.append_nil] at hwritten
    rcases Nat.le_one_iff_eq_zero_or_eq_one.1 (hsingle.length_sent_le after) with hnone | hone
    · exact Or.inl (by rw [hwritten, List.length_eq_zero_iff.1 hnone, List.flatMap_nil])
    · obtain ⟨command, hcommand⟩ := List.length_eq_one_iff.1 hone
      exact Or.inr ⟨command, by rw [hwritten, hcommand, List.flatMap_singleton]⟩

/-- A client of a server that accepts three commands. -/
def acceptedClient : Client Script :=
  .ofSession ⟨.ofChunks (List.replicate 3 (Text.toUtf8 "ACK\r\n".toList)), .empty,
    Session.defaultWait, true, .empty⟩

/-- A configuration with a second command in its prefix. -/
def twoLinePrefix : Configuration :=
  ⟨.unchanged, .unchanged, .unchanged, "a\nMSR CLR".toList, 1, none, Configuration.defaultFormat⟩

/-- Blanks inside of a typed line are kept, and so are those that are not in ASCII. A prefix cannot
end the line and add another one. -/
theorem commands_of_written_acceptedClient :
    let uses := [.call (.raw "  SET PREFIX a \u00A0 b\t".toList),
      .session (.setWait (.ofSeconds 1)), .session (.act (.executeLine "MSR STOP".toList true))]
    let after := (Call.runAll perform uses acceptedClient).2
    let clear := ClientUse.call .clear
    let last := ClientUse.call (.write twoLinePrefix)
    after.session.connected = true ∧
      (sentAll uses acceptedClient).map Command.line =
        ["SET PREFIX a \u00A0 b".toList, "MSR STOP".toList] ∧
      Command.readAll? (written uses acceptedClient) = some (sentAll uses acceptedClient) ∧
      (∃ command : Command, written [clear] after = command.encode) ∧
      last.HasMadeTimes ∧
      (∃ cause, (last.perform.run after).1 = .error (.refused cause)) ∧
        written [last] after = [] := by
  intro uses after clear last
  obtain ⟨hstream, hnext⟩ := commands_of_written acceptedClient uses
  have hconnected : after.session.connected = true := by decide +kernel
  have hcleared : (clear.perform.run after).2.session.connected = true := by decide +kernel
  have hsome : written [clear] after ≠ [] := by decide +kernel
  have hmade : last.HasMadeTimes := by
    intro key
    cases key <;> exact Or.inl ⟨"0u".toList, by decide +kernel⟩
  have hrefused : (last.perform.run after).1 =
      .error (.refused (.notAToken .filePrefix twoLinePrefix.filePrefix)) := rfl
  refine ⟨hconnected, by decide +kernel, (hstream hconnected).2,
    ((hnext clear).2 trivial hcleared).resolve_left hsome, hmade, ⟨_, hrefused⟩, ?_⟩
  exact ((hnext last).1 hmade _ hrefused).1

end ClientUse

end TimingBoard
