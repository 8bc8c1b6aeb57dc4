import TimingBoard.Proofs.Board.Expiry
import TimingBoard.Proofs.Client.Alike
import TimingBoard.Proofs.Client.Asking

/-!
# Two clients that do the same

Two clients make the same call, at the same times.  The board of the second has taken more lines
before, and may have noticed the end of a run that the first still has in progress.  The first line
of the call makes the boards alike, and from there on they give answers alike.  So the calls have
results that differ in nothing but numbers of starts, and leave entries in the log that differ in
nothing else.

A call that is refused may send no line at all.  Then nothing changes on either side.
-/

namespace TimingBoard

open Board

variable {α : Type} {lines lines' : List Arrival} {before : Instant} {runs fewer : Nat}

/-! ## One command -/

namespace Session

/-- Two sessions in touch with boards that are not mute. The second board is near the first up to a
moment, and the logs differ in nothing but numbers of starts. -/
structure Together (lines lines' : List Arrival) (before : Instant) (runs : Nat)
    (s s' : Session Connection) : Prop where
  left : s.IsInTouch runs
  right : s'.IsInTouch runs
  unmuted : s.link.board.mute = false
  near : Near lines lines' before s.link.board s'.link.board
  log : s.log.Alike (Arrival.Twin lines lines') s'.log

variable {s s' : Session Connection}

lemma Together.unmuted_right (h : Together lines lines' before runs s s') :
    s'.link.board.mute = false :=
  h.near.settings.mute.trans h.unmuted

lemma Together.mono (h : Together lines lines' before runs s s') (hle : fewer ≤ runs) :
    Together lines lines' before fewer s s' :=
  ⟨h.left.mono hle, h.right.mono hle, h.unmuted, h.near, h.log⟩

/-- Entries alike leave logs alike. -/
lemma alike_log_noted {twin : UInt32 → UInt32 → Prop} (h : s.log.Alike twin s'.log)
    {entry entry' : LogEntry} (hentry : entry.Alike twin entry') (silent : Bool) :
    (s.noted silent entry).log.Alike twin (s'.noted silent entry').log := by
  cases silent with
  | false => exact h.push hentry
  | true => exact h

/-- A command takes one tick of the clock. -/
lemma IsInTouch.clock_execute (h : s.IsInTouch runs) (hmute : s.link.board.mute = false)
    (command : Command) (silent : Bool) :
    ((execute command silent).run s).2.link.clock = fun n => s.link.clock (n + 1) := by
  obtain ⟨first, rest, -, hrun⟩ := h.execute_run hmute command silent
  rw [hrun, link_noted, link_noted]
  rfl

/-- What a command comes to that both sessions execute at the same moment: replies alike, and boards
alike. -/
lemma Together.execute {command : Command}
    (h : Together lines lines' before (runs + command.startCount) s s') (silent : Bool)
    (hnow : s'.link.now = s.link.now) (hle : before.nanos ≤ s.link.now.nanos)
    (hline : ⟨s.link.now, s.link.board⟩ ∈ lines) :
    let after := (execute command silent).run s
    let after' := (execute command silent).run s'
    ResultsAlike (Reply.Alike (Arrival.Twin lines lines') command) after.1 after'.1 ∧
      Together lines lines' before runs after.2 after'.2 ∧
      after.2.link.board.Alike (Arrival.Twin lines lines') after'.2.link.board := by
  intro after after'
  have hprepared := h.near.prepared hle hline command.line
  have hcount := (h.left.hasRoom.prepared s.link.now command.line).length_measurements
  have hanswers : AnswersAlike (Arrival.Twin lines lines') command
      (s.link.board.handle s.link.now command.line)
      (s'.link.board.handle s'.link.now command.line) := by
    rw [hnow]
    exact hprepared.handle hcount
  obtain ⟨first, rest, hframes, hrun⟩ := h.left.execute_run h.unmuted command silent
  obtain ⟨first', rest', hframes', hrun'⟩ := h.right.execute_run h.unmuted_right command silent
  have hafter : after = _ := hrun
  have hafter' : after' = _ := hrun'
  have hboards : after.2.link.board.Alike (Arrival.Twin lines lines') after'.2.link.board := by
    rw [hafter, hafter', link_noted, link_noted, link_noted, link_noted]
    exact hanswers.boards
  refine ⟨?_, ⟨h.left.after_execute, h.right.after_execute, ?_, .alike hboards, ?_⟩, hboards⟩
  · rw [hafter, hafter']
    exact Reply.alike_ofAnswer hanswers.frames
  · rw [hafter]
    simpa using (mute_afterLine command s).trans h.unmuted
  · have hfirst : FramesAlike (Arrival.Twin lines lines') command (first :: rest)
        (first' :: rest') :=
      hframes ▸ hframes' ▸ hanswers.frames
    rw [hafter, hafter']
    have hlog : (s.afterLine command).2.log.Alike (Arrival.Twin lines lines')
        (s'.afterLine command).2.log := h.log
    exact alike_log_noted (alike_log_noted hlog (.same _) silent) hfirst.received silent

end Session

/-! ## One call -/

/-- The lines that a dialogue hands to the board. -/
def Dialogue.arrivals : Dialogue α → Client Connection → List Arrival
  | stop _, _ => []
  | ask command silent next, client =>
    ⟨client.now, client.board⟩ ::
      match (Client.overSession.execute command silent).run client with
      | (.ok reply, client) => (next reply).arrivals client
      | (.error _, _) => []
  | track change next, client =>
    (next client.tracker).arrivals { client with tracker := change client.tracker }

namespace Client

variable {x y : Client Connection} {V : α → α → Prop} {d d' : Dialogue α} {starts : Nat}

/-- What dialogues alike come to that both clients go through at the same moments: results alike,
and boards alike if they were so before or if there was a line. -/
lemma together_follow (hd : d.Alike (Arrival.Twin lines lines') V d')
    (hstarts : d.StartsAtMost starts) (hstarts' : d'.StartsAtMost starts)
    (h : Session.Together lines lines' before (runs + starts) x.session y.session)
    (hclock : y.session.link.clock = x.session.link.clock)
    (hbefore : ∀ n, before.nanos ≤ (x.session.link.clock n).nanos)
    (hlines : ∀ a ∈ d.arrivals x, a ∈ lines) :
    let after := (d.follow overSession).run x
    let after' := (d'.follow overSession).run y
    ResultsAlike V after.1 after'.1 ∧
      Session.Together lines lines' before runs after.2.session after'.2.session ∧
      (x.board.Alike (Arrival.Twin lines lines') y.board ∨ d.arrivals x ≠ [] →
        after.2.board.Alike (Arrival.Twin lines lines') after'.2.board) := by
  -- Both dialogues are followed at once. What is left to start shrinks with every command, and only
  -- the first line has to make the boards alike: from there on they are alike before each line.
  induction hd generalizing x y starts with
  | @stop result result' hresults =>
    simp only [Dialogue.follow, Call.run_ofExcept]
    refine ⟨hresults, h.mono (Nat.le_add_right _ _), ?_⟩
    rintro (hboards | hnone)
    · exact hboards
    · exact absurd rfl hnone
  | @ask command silent next next' hnext ih =>
    have hroom : runs + starts = runs + (starts - command.startCount) + command.startCount := by
      have := hstarts.1
      omega
    rw [hroom] at h
    have hmember : ⟨x.now, x.board⟩ ∈ lines := hlines _ (by simp [Dialogue.arrivals])
    have htick := h.left.clock_execute h.unmuted command silent
    have htick' := h.right.clock_execute h.unmuted_right command silent
    obtain ⟨hreplies, htogether, hboards⟩ :=
      h.execute silent (congrFun hclock 0) (hbefore 0) hmember
    rcases hrun : (Session.execute command silent).run x.session with ⟨result, s⟩
    rcases hrun' : (Session.execute command silent).run y.session with ⟨result', s'⟩
    rw [hrun, hrun'] at hreplies htogether hboards
    rw [hrun] at htick
    rw [hrun'] at htick'
    have hover : (overSession.execute command silent).run x =
        (result, { x with session := s }) := by
      rw [overSession, run_onSession, hrun]
    have hover' : (overSession.execute command silent).run y =
        (result', { y with session := s' }) := by
      rw [overSession, run_onSession, hrun']
    cases hreplies with
    | @ok reply reply' hreplies =>
      have hrest : ∀ a ∈ (next reply).arrivals { x with session := s }, a ∈ lines := by
        intro a ha
        refine hlines a ?_
        simp only [Dialogue.arrivals, hover]
        exact List.mem_cons_of_mem _ ha
      have hclocks : s'.link.clock = s.link.clock := by rw [htick, htick', hclock]
      have hafter : ∀ n, before.nanos ≤ (s.link.clock n).nanos := by
        intro n
        rw [htick]
        exact hbefore (n + 1)
      obtain ⟨hresults, hend, hlast⟩ := ih reply reply' hreplies (x := { x with session := s })
        (y := { y with session := s' }) (hstarts.2 reply) (hstarts'.2 reply') htogether hclocks
        hafter hrest
      simp only [Dialogue.follow]
      rw [Call.run_bind_of_ok hover, Call.run_bind_of_ok hover']
      exact ⟨hresults, hend, fun _ => hlast (Or.inl hboards)⟩
    | error e =>
      simp only [Dialogue.follow]
      rw [Call.run_bind_of_error hover, Call.run_bind_of_error hover']
      exact ⟨.error e, htogether.mono (Nat.le_add_right _ _), fun _ => hboards⟩
  | @track change next next' hnext ih =>
    exact ih x.tracker y.tracker (hstarts x.tracker) (hstarts' y.tracker) h hclock hbefore hlines

end Client

end TimingBoard
