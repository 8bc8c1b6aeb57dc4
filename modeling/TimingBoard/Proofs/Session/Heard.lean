import TimingBoard.Proofs.Session.Offered
import TimingBoard.Proofs.Session.Written

/-!
# What a session hears

The bytes that a session has heard are those that the reads of its link have brought.  They account
for the frames that it takes: the frames of what was held and heard before are the ones taken, and
those of what is held then.  A wait that brings no frame has heard none, and the last read says how
it ended.

A command that changes a setting is written whole and takes one frame.  The frame alone decides it.
-/

namespace TimingBoard

variable {L : Type}

namespace LinkEvent

/-- The bytes that a read has brought. -/
def heard : LinkEvent → Bytes
  | read (.ok chunk) => chunk
  | _ => []

/-- Whether a write has failed, or what was written could not be sent on. -/
def failsToWrite : LinkEvent → Bool
  | written _ (.error _) | flushed (.error _) => true
  | _ => false

/-- The error of a wait for a frame that ends with this read. -/
def waitError? : LinkEvent → Option Error
  | read (.ok chunk) => if chunk = [] then some (.network .closedByPeer) else none
  | read (.error fault) =>
    if fault.kind = .interrupted then none
    else if fault.kind = .timedOut ∨ fault.kind = .wouldBlock then some .timeout
    else some (.network fault)
  | _ => none

/-- A wait does not end with a refusal. -/
lemma waitError?_ne_refused (event : LinkEvent) (cause : Refusal) :
    event.waitError? ≠ some (.refused cause) := by
  unfold waitError?
  split
  · split <;> simp
  · split_ifs <;> simp
  · simp

end LinkEvent

namespace Session

/-! ## Waiting for a frame -/

/-- What a session hears in a number of events while it waits for a frame.  Whatever follows, the
frame is the first one of what was held and heard; or there is none, and the last event ends the
wait. -/
inductive Hears (s t : Session (Observed L)) : List LinkEvent → Except Error Frame → Prop
  | frame {events : List LinkEvent} {f : Frame} :
    (∀ more, framesOf (s.buffer.bytes ++ (events.flatMap LinkEvent.heard ++ more)) =
      f :: framesOf (t.buffer.bytes ++ more)) → t.connected = true → Hears s t events (.ok f)
  | silence {events : List LinkEvent} {event : LinkEvent} {e : Error} :
    framesOf (s.buffer.bytes ++ events.flatMap LinkEvent.heard) = [] →
      framesOf t.buffer.bytes = [] →
      events.getLast? = some event → event.waitError? = some e → Hears s t events (.error e)

/-- A read that does not end the wait comes before the others. -/
lemma Hears.after {s s₁ t : Session (Observed L)} {event : LinkEvent} {events : List LinkEvent}
    {result : Except Error Frame} (h : Hears s₁ t events result)
    (hframes : ∀ more, framesOf (s.buffer.bytes ++ (event.heard ++ more)) =
      framesOf (s₁.buffer.bytes ++ more)) : Hears s t (event :: events) result := by
  cases h with
  | frame hfirst hconnected =>
    refine .frame (fun more => ?_) hconnected
    rw [List.flatMap_cons, List.append_assoc, hframes, hfirst]
  | silence hnone hafter hlast herror =>
    refine .silence ?_ hafter ?_ herror
    · rw [List.flatMap_cons, hframes, hnone]
    · rw [List.getLast?_cons, hlast]
      rfl

/-- A note is not heard. -/
lemma Hears.noted {s t : Session (Observed L)} {events : List LinkEvent}
    {result : Except Error Frame} (h : Hears s t events result) (silent : Bool) (entry : LogEntry) :
    Hears s (t.noted silent entry) events result := by
  cases silent with
  | false =>
    cases h with
    | frame hfirst hconnected => exact .frame hfirst hconnected
    | silence hnone hafter hlast herror => exact .silence hnone hafter hlast herror
  | true => exact h

variable [Link L] {s : Session (Observed L)}

/-- A wait for a frame is a number of reads, and hears what they bring. -/
lemma hears_awaitFrame (hs : s.connected = true) : ∃ events,
    (awaitFrame s).2.link.account = s.link.account ++ events ∧
      events.flatMap LinkEvent.bytes = [] ∧ Hears s (awaitFrame s).2 events (awaitFrame s).1 := by
  have hheld {b after : ReceiveBuffer} (h : b.nextFrame = (none, after)) :
      framesOf b.bytes = [] ∧ framesOf after.bytes = [] := by
    obtain ⟨hframes, rfl⟩ := ReceiveBuffer.nextFrame_eq_none h
    exact ⟨hframes, framesOf_remainder _⟩
  fun_induction awaitFrame s with
  | case1 s frame buffer hframe =>
    exact ⟨[], by simp, rfl, .frame (fun more => framesOf_append_of_frame hframe more) hs⟩
  | case2 s buffer hnone link hread =>
    obtain ⟨hbefore, hafter⟩ := hheld hnone
    exact ⟨[.read (.ok [])], (Observed.of_read hread).2, rfl,
      .silence (by simpa [LinkEvent.heard] using hbefore) hafter rfl rfl⟩
  | case3 s buffer hnone chunk link hread hchunk ih =>
    obtain ⟨events, haccount, hwritten, hhears⟩ := ih hs
    refine ⟨.read (.ok chunk) :: events, ?_, hwritten, hhears.after fun more => ?_⟩
    · rw [haccount, (Observed.of_read hread).2, List.append_assoc]
      rfl
    · rw [framesOf_append_of_none hnone, ← List.append_assoc]
      rfl
  | case4 s buffer hnone fault link hread hkind ih =>
    obtain ⟨events, haccount, hwritten, hhears⟩ := ih hs
    refine ⟨.read (.error fault) :: events, ?_, hwritten, hhears.after fun more => ?_⟩
    · rw [haccount, (Observed.of_read hread).2, List.append_assoc]
      rfl
    · exact framesOf_append_of_none hnone more
  | case5 s buffer hnone fault link hread hkind hwait =>
    obtain ⟨hbefore, hafter⟩ := hheld hnone
    exact ⟨[.read (.error fault)], (Observed.of_read hread).2, rfl,
      .silence (by simpa [LinkEvent.heard] using hbefore) hafter rfl
        (by simp [LinkEvent.waitError?, hkind, hwait])⟩
  | case6 s buffer hnone fault link hread hkind hwait =>
    obtain ⟨hbefore, hafter⟩ := hheld hnone
    exact ⟨[.read (.error fault)], (Observed.of_read hread).2, rfl,
      .silence (by simpa [LinkEvent.heard] using hbefore) hafter rfl
        (by simp [LinkEvent.waitError?, hkind, hwait])⟩

/-! ## Changes of settings -/

variable {command : Command}

/-- The reply to a change of a setting is decided by the frame that is heard. -/
lemma hears_reply (hs : s.connected = true) (hverb : command.verb = .set) (silent : Bool) :
    let after := (do
      let frame ← readFrame
      note silent (.received frame)
      Reply.decode readFrame command frame).run s
    ∃ events heard, after.2.link.account = s.link.account ++ events ∧
      events.flatMap LinkEvent.bytes = [] ∧ Hears s after.2 events heard ∧
        after.1 = heard.bind (Reply.decodeVerdict command) := by
  obtain ⟨events, haccount, hwritten, hhears⟩ := hears_awaitFrame hs
  rw [← readFrame_run hs] at haccount hhears
  rcases hread : readFrame.run s with ⟨e | f, t⟩
  · rw [hread] at haccount hhears
    simp only [Call.run_bind_of_error hread]
    exact ⟨events, .error e, haccount, hwritten, hhears, rfl⟩
  · rw [hread] at haccount hhears
    have hdecode : Reply.decode readFrame command f =
        Call.ofExcept (σ := Session (Observed L)) (Reply.decodeVerdict command f) := by
      rw [Reply.decode, hverb]
    simp only [Call.run_bind_of_ok hread, Call.run_bind_of_ok (run_note silent _ t), hdecode,
      Call.run_ofExcept]
    refine ⟨events, .ok f, ?_, hwritten, hhears.noted silent _, rfl⟩
    cases silent <;> exact haccount

/-- A command that changes a setting is written whole, and decided by the frame that is heard then;
unless it cannot be written, and fails. -/
lemma hears_execute (hs : s.connected = true) (hverb : command.verb = .set) (silent : Bool) :
    let after := (execute command silent).run s
    ∃ events, after.2.link.account = s.link.account ++ events ∧
      (((∃ event ∈ events, event.failsToWrite = true) ∧ ∃ e, after.1 = .error e) ∨
        events.flatMap LinkEvent.bytes = command.encode ∧ ∃ heard, Hears s after.2 events heard ∧
          after.1 = heard.bind (Reply.decodeVerdict command)) := by
  intro after
  have htransmits := transmits_transmit command.encode s
  rw [← send_run hs] at htransmits
  rcases hsend : (send command).run s with ⟨result, s'⟩
  rw [hsend] at htransmits
  change Transmits s s' command.encode result at htransmits
  cases htransmits with
  | unwritten fault haccount _ =>
    have hafter : after = (.error (.network fault), s') := Call.run_bind_of_error hsend
    rw [hafter]
    exact ⟨_, haccount, Or.inl ⟨⟨.written command.encode (.error fault), by simp, rfl⟩, _, rfl⟩⟩
  | unsent fault haccount _ =>
    have hafter : after = (.error (.network fault), s') := Call.run_bind_of_error hsend
    rw [hafter]
    exact ⟨_, haccount, Or.inl ⟨⟨.flushed (.error fault), by simp, rfl⟩, _, rfl⟩⟩
  | sent haccount hsame =>
    -- Neither the transmission nor the note touches what is held.
    have hnoted : (s'.noted silent (.sent command)).connected = true ∧
        (s'.noted silent (.sent command)).link.account = s'.link.account ∧
        (s'.noted silent (.sent command)).buffer = s.buffer := by
      rw [hsame]
      cases silent <;> exact ⟨hs, rfl, rfl⟩
    obtain ⟨hconnected, haccount', hbuffer⟩ := hnoted
    obtain ⟨events, heard, hreply, hwritten, hhears, hresult⟩ := hears_reply hconnected hverb silent
    rw [← execute_run_of_send hsend] at hreply hhears hresult
    refine ⟨.written command.encode (.ok ()) :: .flushed (.ok ()) :: events, ?_, Or.inr ⟨?_, heard,
      ?_, hresult⟩⟩
    · rw [hreply, haccount', haccount]
      simp
    · simp [LinkEvent.bytes, hwritten]
    · have hsent : Hears s after.2 (.flushed (.ok ()) :: events) heard :=
        hhears.after fun more => by rw [hbuffer]; rfl
      exact hsent.after fun more => rfl

end Session

end TimingBoard
