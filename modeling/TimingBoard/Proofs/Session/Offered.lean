import TimingBoard.Proofs.Reply.Outcome
import TimingBoard.Proofs.Session.Loss

/-!
# The frames that a command can take

Replies carry no identification: a command takes the frames that reach the session first.  They are
those of the bytes that are still held, and of the bytes that the link brings until a read of it
fails or waits too long.

A reply is what its first frames amount to, so that the answer of a command can be told from the
bytes that reach it, without following the reads one by one.
-/

namespace TimingBoard

namespace Session

open ReceiveBuffer

variable {L : Type} [Link L]

/-! ## Bytes and frames -/

/-- Reads of a link bring bytes, one read after the other; some may be interrupted. -/
inductive Brings : L → Bytes → L → Prop
  | nil (link : L) : Brings link [] link
  | bytes {link link' last : L} {chunk more : Bytes} :
      Link.read readSize link = (.ok chunk, link') →
      chunk ≠ [] → Brings link' more last → Brings link (chunk ++ more) last
  | interrupted {link link' last : L} {fault : LinkFault} {more : Bytes} :
      Link.read readSize link = (.error fault, link') → fault.kind = .interrupted →
        Brings link' more last → Brings link more last

/-- The frames that reach a session first: those of the bytes it holds and of those that its link
brings. -/
def Offers (s : Session L) (frames : List Frame) : Prop :=
  s.connected = true ∧ ∃ bytes link, Brings s.link bytes link ∧
    frames <+: framesOf (s.buffer.bytes ++ bytes)

/-- A command is written, and these are the first frames that reach the session then. -/
def Receives (command : Command) (s : Session L) (frames : List Frame) : Prop :=
  ∃ s', (send command).run s = (.ok (), s') ∧ s'.Offers frames

variable {s t : Session L} {bytes : Bytes} {link : L} {f : Frame} {frames : List Frame}

/-- A command is written exactly if the session is connected, and its link takes the bytes of the
command and sends them on. -/
lemma send_eq_ok_iff {command : Command} : (send command).run s = (.ok (), t) ↔
    s.connected = true ∧ ∃ written, Link.write command.encode s.link = (.ok (), written) ∧
      Link.flush written = (.ok (), t.link) ∧ t = { s with link := t.link } := by
  by_cases hconnected : s.connected = true
  · rw [send_run hconnected, Call.run, transmit]
    rcases Link.write command.encode s.link with ⟨fault | _, written⟩
    · simp [lose]
    rcases hflush : Link.flush written with ⟨fault | _, flushed⟩
    · simp [lose, hflush]
    · simp only [hflush, hconnected, Prod.mk.injEq, true_and]
      constructor
      · rintro rfl
        exact ⟨written, rfl, hflush, rfl⟩
      · rintro ⟨_, rfl, hsame, ht⟩
        rw [hflush] at hsame
        rw [ht, (Prod.mk.inj hsame).2]
  · have hsend : (send command).run s = (.error .notConnected, s) :=
      ensureConnected_bind_run (Bool.eq_false_iff.2 hconnected) fun _ => transmit command.encode
    simp [hsend, hconnected]

/-! ## Reading frames -/

lemma framesOf_append_of_none {b after : ReceiveBuffer} (h : b.nextFrame = (none, after))
    (more : Bytes) : framesOf (b.bytes ++ more) = framesOf (after.bytes ++ more) := by
  obtain ⟨hframes, rfl⟩ := nextFrame_eq_none h
  rw [framesOf_append, hframes, List.nil_append]

lemma framesOf_append_of_frame {b after : ReceiveBuffer} (h : b.nextFrame = (some f, after))
    (more : Bytes) : framesOf (b.bytes ++ more) = f :: framesOf (after.bytes ++ more) := by
  obtain ⟨hframes, hrest⟩ := nextFrame_eq_some h
  rw [framesOf_append, hframes, ← hrest, List.cons_append, ← framesOf_append]

/-- A frame that is offered is read, and the frames after it are still offered. -/
lemma awaitFrame_of_brings (hbrings : Brings s.link bytes link)
    (hframes : f :: frames <+: framesOf (s.buffer.bytes ++ bytes)) :
    ∃ t rest, awaitFrame s = (.ok f, t) ∧ t.connected = s.connected ∧ Brings t.link rest link ∧
      frames <+: framesOf (t.buffer.bytes ++ rest) := by
  -- Without a frame in the buffer the link must bring more bytes, by the read that is made.
  have hfilled {b after : ReceiveBuffer} (h : b.nextFrame = (none, after)) :
      ¬ f :: frames <+: framesOf (b.bytes ++ []) := by
    rw [List.append_nil, (nextFrame_eq_none h).1]
    simp
  fun_induction awaitFrame s generalizing bytes with
  | case1 s frame buffer hframe =>
    rw [framesOf_append_of_frame hframe, List.cons_prefix_cons] at hframes
    obtain ⟨rfl, hrest⟩ := hframes
    exact ⟨{ s with buffer := buffer }, bytes, rfl, rfl, hbrings, hrest⟩
  | case2 s buffer hnone link' hread =>
    cases hbrings with
    | nil => exact absurd hframes (hfilled hnone)
    | bytes hread' hchunk _ =>
      obtain ⟨hresult, -⟩ := Prod.mk.inj (hread.symm.trans hread')
      exact absurd (Except.ok.inj hresult).symm hchunk
    | interrupted hread' _ _ => simp [hread] at hread'
  | case3 s buffer hnone chunk link' hread hchunk ih =>
    cases hbrings with
    | nil => exact absurd hframes (hfilled hnone)
    | bytes hread' _ hmore =>
      obtain ⟨hresult, rfl⟩ := Prod.mk.inj (hread.symm.trans hread')
      obtain rfl := Except.ok.inj hresult
      rw [framesOf_append_of_none hnone, ← List.append_assoc] at hframes
      exact ih hmore hframes
    | interrupted hread' _ _ => simp [hread] at hread'
  | case4 s buffer hnone fault link' hread hkind ih =>
    cases hbrings with
    | nil => exact absurd hframes (hfilled hnone)
    | bytes hread' _ _ => simp [hread] at hread'
    | interrupted hread' _ hmore =>
      obtain ⟨-, rfl⟩ := Prod.mk.inj (hread.symm.trans hread')
      rw [framesOf_append_of_none hnone] at hframes
      exact ih hmore hframes
  | case5 s buffer hnone fault link' hread hkind hwait =>
    cases hbrings with
    | nil => exact absurd hframes (hfilled hnone)
    | bytes hread' _ _ => simp [hread] at hread'
    | interrupted hread' hkind' _ =>
      obtain ⟨hresult, -⟩ := Prod.mk.inj (hread.symm.trans hread')
      obtain rfl := Except.error.inj hresult
      exact absurd hkind' hkind
  | case6 s buffer hnone fault link' hread hkind hwait =>
    cases hbrings with
    | nil => exact absurd hframes (hfilled hnone)
    | bytes hread' _ _ => simp [hread] at hread'
    | interrupted hread' hkind' _ =>
      obtain ⟨hresult, -⟩ := Prod.mk.inj (hread.symm.trans hread')
      obtain rfl := Except.error.inj hresult
      exact absurd hkind' hkind

/-- The bytes that were read for a frame, and those that are brought after it. -/
lemma brings_of_awaitFrame (h : awaitFrame s = (.ok f, t)) :
    t.connected = s.connected ∧ ∀ {rest link}, Brings t.link rest link →
      ∃ bytes, Brings s.link bytes link ∧
        framesOf (s.buffer.bytes ++ bytes) = f :: framesOf (t.buffer.bytes ++ rest) := by
  fun_induction awaitFrame s with
  | case1 s frame buffer hframe =>
    obtain ⟨hf, rfl⟩ := Prod.mk.inj h
    obtain rfl := Except.ok.inj hf
    exact ⟨rfl, fun hrest => ⟨_, hrest, framesOf_append_of_frame hframe _⟩⟩
  | case2 s buffer hnone link' hread => simp [lose] at h
  | case3 s buffer hnone chunk link' hread hchunk ih =>
    obtain ⟨hconnected, hbrings⟩ := ih h
    refine ⟨hconnected, fun hrest => ?_⟩
    obtain ⟨bytes, hbytes, hframes⟩ := hbrings hrest
    refine ⟨chunk ++ bytes, .bytes hread hchunk hbytes, ?_⟩
    rw [framesOf_append_of_none hnone, ← List.append_assoc]
    exact hframes
  | case4 s buffer hnone fault link' hread hkind ih =>
    obtain ⟨hconnected, hbrings⟩ := ih h
    refine ⟨hconnected, fun hrest => ?_⟩
    obtain ⟨bytes, hbytes, hframes⟩ := hbrings hrest
    refine ⟨bytes, .interrupted hread hkind hbytes, ?_⟩
    rw [framesOf_append_of_none hnone]
    exact hframes
  | case5 s buffer hnone fault link' hread hkind hwait => simp at h
  | case6 s buffer hnone fault link' hread hkind hwait => simp [lose] at h

/-- A session that reads a frame is connected, before and after. -/
lemma connected_of_readFrame (h : readFrame.run s = (.ok f, t)) :
    s.connected = true ∧ t.connected = true := by
  have hbefore : s.connected = true := by
    by_contra hlost
    have herror := ensureConnected_bind_run (Bool.eq_false_iff.2 hlost) fun _ => awaitFrame
    simp [show readFrame.run s = _ from herror] at h
  rw [readFrame_run hbefore] at h
  exact ⟨hbefore, (brings_of_awaitFrame h).1.trans hbefore⟩

/-- Frames are offered if the first of them is read and the others are offered then. -/
lemma offers_cons_iff : s.Offers (f :: frames) ↔
    ∃ t, readFrame.run s = (.ok f, t) ∧ t.Offers frames := by
  constructor
  · rintro ⟨hconnected, bytes, link, hbrings, hframes⟩
    obtain ⟨t, rest, hrun, hsame, hrest, hmore⟩ := awaitFrame_of_brings hbrings hframes
    exact ⟨t, (readFrame_run hconnected).trans hrun, hsame.trans hconnected, rest, link, hrest,
      hmore⟩
  · rintro ⟨t, hrun, -, rest, link, hrest, hmore⟩
    obtain ⟨hbefore, -⟩ := connected_of_readFrame hrun
    rw [readFrame_run hbefore] at hrun
    obtain ⟨-, hbrings⟩ := brings_of_awaitFrame hrun
    obtain ⟨bytes, hbytes, hframes⟩ := hbrings hrest
    exact ⟨hbefore, bytes, link, hbytes, hframes ▸ List.cons_prefix_cons.2 ⟨rfl, hmore⟩⟩

/-- A connected session hands out the frames that it is offered. -/
lemma offers_iff_yields (hs : s.connected = true) :
    s.Offers frames ↔ ∃ t, Reply.Yields readFrame s frames t := by
  induction frames generalizing s with
  | nil => exact ⟨fun _ => ⟨s, .nil s⟩, fun _ => ⟨hs, [], s.link, .nil s.link, List.nil_prefix⟩⟩
  | cons f frames ih =>
    rw [offers_cons_iff]
    constructor
    · rintro ⟨t, hrun, hmore⟩
      obtain ⟨u, hyields⟩ := (ih (connected_of_readFrame hrun).2).1 hmore
      exact ⟨u, .cons hrun hyields⟩
    · rintro ⟨u, hyields⟩
      cases hyields with
      | cons hrun hmore => exact ⟨_, hrun, (ih (connected_of_readFrame hrun).2).2 ⟨u, hmore⟩⟩

lemma offers_noted (silent : Bool) (entry : LogEntry) :
    (s.noted silent entry).Offers frames ↔ s.Offers frames := by
  cases silent <;> rfl

/-! ## Executing a command -/

variable {command : Command} {silent : Bool}

/-- A command that is written answers what is made of the frames that are read then. -/
lemma execute_run_of_send {s' : Session L} (h : (send command).run s = (.ok (), s')) :
    (execute command silent).run s = (do
      let frame ← readFrame
      note silent (.received frame)
      Reply.decode readFrame command frame).run (s'.noted silent (.sent command)) := by
  rw [execute, Call.run_bind_of_ok h, Call.run_bind_of_ok (run_note silent _ s')]

/-- The answer of a command is what the first frames amount to that reach the session. -/
lemma execute_eq_ok_iff {reply : Reply} : ((execute command silent).run s).1 = .ok reply ↔
    ∃ f frames, s.Receives command (f :: frames) ∧ Reply.Amounts command f frames reply := by
  rcases hsend : (send command).run s with ⟨e | u, s'⟩
  · rw [execute, Call.run_bind_of_error hsend]
    simp [Receives, hsend]
  rw [execute_run_of_send hsend]
  have hreceives (frames : List Frame) : s.Receives command frames ↔
      (s'.noted silent (.sent command)).Offers frames := by
    rw [offers_noted]
    simp [Receives, hsend]
  simp only [hreceives, offers_cons_iff]
  rcases hread : readFrame.run (s'.noted silent (.sent command)) with ⟨e | f, t⟩
  · rw [Call.run_bind_of_error hread]
    simp
  · rw [Call.run_bind_of_ok hread, Call.run_bind_of_ok (run_note silent _ t),
      Reply.decode_run_eq_ok_iff]
    have hnoted : (t.noted silent (.received f)).connected = true := by
      have hconnected := (connected_of_readFrame hread).2
      cases silent <;> exact hconnected
    constructor
    · rintro ⟨frames, u, hyields, hamounts⟩
      have hoffers := (offers_noted silent _).1 ((offers_iff_yields hnoted).2 ⟨u, hyields⟩)
      exact ⟨f, frames, ⟨t, rfl, hoffers⟩, hamounts⟩
    · rintro ⟨f', frames, ⟨t', heq, hoffers⟩, hamounts⟩
      obtain ⟨hframe, rfl⟩ := Prod.mk.inj heq
      obtain rfl := Except.ok.inj hframe
      obtain ⟨u, hyields⟩ := (offers_iff_yields hnoted).1 ((offers_noted silent _).2 hoffers)
      exact ⟨frames, u, hyields, hamounts⟩

end Session

end TimingBoard
