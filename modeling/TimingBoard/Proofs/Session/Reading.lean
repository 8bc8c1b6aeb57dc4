import TimingBoard.Proofs.Frame.Lines
import TimingBoard.Proofs.Link.InOrder
import TimingBoard.Proofs.Reply.Source
import TimingBoard.Session.Basic

/-!
# Waiting for a frame

What a session has not taken yet lies in two places, its receive buffer and the link.  Over a link
that keeps the order of bytes only the two together matter: waiting for a frame gives the first
frame of them, whatever part of it has arrived before and in whatever pieces the rest arrives.  When
a wait runs out, nothing but noise and empty lines has been passed over, and on a prompt link there
was no frame to be had.
-/

namespace TimingBoard.Session

open Link.InOrder

variable {L : Type}

/-! ## Notes -/

/-- A session with one more entry in its log, unless it is silent. -/
def noted (silent : Bool) (entry : LogEntry) (s : Session L) : Session L :=
  if silent then s else { s with log := s.log.push entry }

lemma run_note (silent : Bool) (entry : LogEntry) (s : Session L) :
    (note silent entry).run s = (.ok (), s.noted silent entry) := by
  cases silent <;> rfl

/-- Calls on a session whose connection is lost fail without touching it. -/
lemma ensureConnected_bind_run {α : Type} {s : Session L} (hs : s.connected = false)
    (next : Unit → Call (Session L) α) :
    (ensureConnected >>= next).run s = (.error .notConnected, s) := by
  have hlost : ensureConnected.run s = (.error .notConnected, s) := by
    simp [ensureConnected, Call.run, hs]
  exact Call.run_bind_of_error hlost

/-! ## Unread bytes -/

variable [Link L]

/-- Asking a connected session for a frame is waiting for one. -/
lemma readFrame_run {s : Session L} (hs : s.connected = true) :
    readFrame.run s = awaitFrame s := by
  change Call.andThen ensureConnected (fun _ => awaitFrame) s = awaitFrame s
  simp [Call.andThen, ensureConnected, hs]

/-- What every read of the link keeps is kept while a session waits for a frame. -/
lemma keeps_readFrame_of_link {P : L → Prop} (h : ∀ l size, P l → P (Link.read size l).2) :
    Call.Keeps (fun s : Session L => P s.link) readFrame := by
  intro s hs
  rcases hconnected : s.connected with _ | _
  · have hlost : readFrame.run s = (.error .notConnected, s) :=
      ensureConnected_bind_run hconnected _
    rwa [hlost]
  · rw [readFrame_run hconnected]
    have hlink {s : Session L} {result : Except LinkFault Bytes} {link : L} (hs : P s.link)
        (hread : Link.read readSize s.link = (result, link)) : P link := by
      have hafter := h s.link readSize hs
      rwa [hread] at hafter
    fun_induction awaitFrame s with
    | case1 s frame buffer hframe => exact hs
    | case2 s buffer hnone link hread => exact hlink hs hread
    | case3 s buffer hnone chunk link hread hchunk ih => exact ih (hlink hs hread) hconnected
    | case4 s buffer hnone fault link hread hkind ih => exact ih (hlink hs hread) hconnected
    | case5 s buffer hnone fault link hread hkind hwait => exact hlink hs hread
    | case6 s buffer hnone fault link hread hkind hwait => exact hlink hs hread

variable [Link.InOrder L] {s s' : Session L}

/-- Everything that was sent to a session and not taken by it. -/
def unread (s : Session L) : ReceiveBuffer :=
  s.buffer.receive (coming s.link)

/-- The frames that were sent to a session and not taken by it. -/
def awaited (s : Session L) : List Frame :=
  framesOf s.unread.bytes

/-- A session that can read: connected, over a link that was not closed. -/
structure CanRead (s : Session L) : Prop where
  connected : s.connected = true
  isOpen : isOpen s.link

/-- What a session is apart from the bytes that are still to be taken. -/
def withoutBytes (s : Session L) : Session L :=
  { s with link := Link.InOrder.withoutBytes s.link, buffer := .empty }

/-- One wait for a frame: it brings the first frame of what is unread, or it runs out. -/
inductive Awaits (s s' : Session L) : Except Error Frame → Prop
  | frame {f : Frame} : s.unread.nextFrame = (some f, s'.unread) → Awaits s s' (.ok f)
  | timeout : s.unread.nextFrame = s'.unread.nextFrame → framesOf s'.buffer.bytes = [] →
      s'.buffer.bytes = remainder s'.buffer.bytes → (isPrompt L → coming s'.link = []) →
      Awaits s s' (.error .timeout)

/-- A wait depends on what is unread only through the first frame of it. -/
lemma Awaits.of_nextFrame_eq {s₀ : Session L} {result : Except Error Frame}
    (h : Awaits s s' result) (heq : s₀.unread.nextFrame = s.unread.nextFrame) :
    Awaits s₀ s' result := by
  cases h with
  | frame hframe => exact .frame (heq.trans hframe)
  | timeout hsame hnone hrest hprompt => exact .timeout (heq.trans hsame) hnone hrest hprompt

/-- A session after a wait. -/
structure AfterWait (s s' : Session L) (result : Except Error Frame) : Prop where
  awaits : Awaits s s' result
  canRead : s'.CanRead
  withoutBytes_eq : s'.withoutBytes = s.withoutBytes

/-- Waiting for a frame on a link that keeps the order of bytes. -/
lemma afterWait_awaitFrame (hs : s.CanRead) : AfterWait s (awaitFrame s).2 (awaitFrame s).1 := by
  fun_induction awaitFrame s with
  | case1 s frame buffer hframe =>
    exact ⟨.frame (ReceiveBuffer.nextFrame_receive_of_some hframe _), ⟨hs.1, hs.2⟩, rfl⟩
  | case2 s buffer hnone link hread =>
    cases takesFrom_of_read hs.isOpen (by decide) hread with
    | bytes hne => exact absurd rfl hne
  | case3 s buffer hnone chunk link hread hchunk ih =>
    have hopen := isOpen_of_read hs.isOpen hread
    have hsame := withoutBytes_of_read hs.isOpen hread
    cases takesFrom_of_read hs.isOpen (by decide) hread with
    | bytes _ hcoming =>
      obtain ⟨hawaits, hread', hbytes⟩ := ih ⟨hs.connected, hopen⟩
      refine ⟨hawaits.of_nextFrame_eq ?_, hread', ?_⟩
      · have := ReceiveBuffer.nextFrame_receive_of_none hnone (coming s.link)
        rw [hcoming] at this
        rw [unread, hcoming, this]
        simp [unread, ReceiveBuffer.receive]
      · rw [hbytes]
        simp [withoutBytes, hsame]
  | case4 s buffer hnone fault link hread hkind ih =>
    cases takesFrom_of_read hs.isOpen (by decide) hread with
    | nothing hwait _ => simp [hkind] at hwait
  | case5 s buffer hnone fault link hread hkind hwait =>
    have hopen := isOpen_of_read hs.isOpen hread
    have hsame := withoutBytes_of_read hs.isOpen hread
    obtain ⟨hframes, hbuffer⟩ := ReceiveBuffer.nextFrame_eq_none hnone
    cases takesFrom_of_read hs.isOpen (by decide) hread with
    | nothing _ hcoming =>
      refine ⟨.timeout ?_ ?_ ?_ ?_, ⟨hs.connected, hopen⟩, by simp [withoutBytes, hsame]⟩
      · rw [unread, ReceiveBuffer.nextFrame_receive_of_none hnone, hcoming]
        rfl
      · simp [hbuffer]
      · simp [hbuffer]
      · exact fun hprompt => hcoming.symm.trans (coming_of_prompt hprompt hs.isOpen hread)
  | case6 s buffer hnone fault link hread hkind hwait =>
    cases takesFrom_of_read hs.isOpen (by decide) hread with
    | nothing hwait' _ => exact absurd hwait' hwait

/-- Asking for a frame over a link that keeps the order of bytes. -/
lemma afterWait_readFrame (hs : s.CanRead) :
    AfterWait s (readFrame.run s).2 (readFrame.run s).1 := by
  rw [readFrame_run hs.connected]
  exact afterWait_awaitFrame hs

/-- A wait that brings a frame brings the first one awaited, and a wait that runs out loses none.
On a prompt link it runs out only when no frame is awaited, and leaves in the buffer what follows
the last complete line. -/
lemma Awaits.awaited_cases {result : Except Error Frame} (h : Awaits s s' result) :
    remainder s'.unread.bytes = remainder s.unread.bytes ∧
      ((∃ f, result = .ok f ∧ s.awaited = f :: s'.awaited) ∨
        (result = .error .timeout ∧ s'.awaited = s.awaited ∧
          (isPrompt L → s.awaited = [] ∧ s'.buffer.bytes = remainder s.unread.bytes))) := by
  cases h with
  | frame hframe =>
    obtain ⟨hfirst, hrest⟩ := ReceiveBuffer.nextFrame_eq_some hframe
    exact ⟨hrest, Or.inl ⟨_, rfl, hfirst⟩⟩
  | timeout hsame hnone hbuffer hdry =>
    obtain ⟨hframes, hrest⟩ := ReceiveBuffer.framesOf_eq_of_nextFrame_eq hsame
    refine ⟨hrest.symm, Or.inr ⟨rfl, hframes.symm, fun hprompt => ?_⟩⟩
    have hall : s'.unread = s'.buffer := by
      simp [unread, ReceiveBuffer.receive, hdry hprompt]
    refine ⟨?_, ?_⟩
    · rw [awaited, hframes, hall, hnone]
    · rw [hrest, hall, ← hbuffer]

/-! ## Notes and reading -/

lemma withoutBytes_noted (s : Session L) (silent : Bool) (entry : LogEntry) :
    (s.noted silent entry).withoutBytes = s.withoutBytes.noted silent entry := by
  cases silent <;> rfl

lemma unread_noted (s : Session L) (silent : Bool) (entry : LogEntry) :
    (s.noted silent entry).unread = s.unread := by
  cases silent <;> rfl

lemma CanRead.noted (h : s.CanRead) (silent : Bool) (entry : LogEntry) :
    (s.noted silent entry).CanRead := by
  cases silent
  · exact ⟨h.connected, h.isOpen⟩
  · exact h

/-! ## Prompt links -/

section Prompt

variable (hprompt : isPrompt L)

include hprompt

/-- On a prompt link a read brings the first frame of what is unread. -/
lemma readFrame_of_nextFrame {f : Frame} {rest : ReceiveBuffer} (hs : s.CanRead)
    (h : s.unread.nextFrame = (some f, rest)) :
    ∃ s', readFrame.run s = (.ok f, s') ∧ s'.CanRead ∧ s'.unread = rest ∧
      s'.withoutBytes = s.withoutBytes := by
  have hwait := afterWait_readFrame hs
  rcases hrun : readFrame.run s with ⟨result, s'⟩
  rw [hrun] at hwait
  cases hwait.awaits with
  | frame hframe =>
    obtain ⟨hfirst, hrest⟩ := Prod.ext_iff.1 (hframe.symm.trans h)
    obtain rfl := Option.some.inj hfirst
    exact ⟨s', rfl, hwait.canRead, hrest, hwait.withoutBytes_eq⟩
  | timeout hsame hnone _ hdry =>
    have hall : s'.unread = s'.buffer := by
      simp [unread, ReceiveBuffer.receive, hdry hprompt]
    rw [hall, h] at hsame
    have hfirst := (ReceiveBuffer.nextFrame_eq_some hsame.symm).1
    simp [hnone] at hfirst

/-- On a prompt link a read finds nothing when nothing is unread. -/
lemma readFrame_of_unread_nil (hs : s.CanRead) (h : s.unread.bytes = []) :
    ∃ s', readFrame.run s = (.error .timeout, s') ∧ s'.CanRead ∧ s'.unread.bytes = [] ∧
      s'.withoutBytes = s.withoutBytes := by
  have hwait := afterWait_readFrame hs
  rcases hrun : readFrame.run s with ⟨result, s'⟩
  rw [hrun] at hwait
  cases hwait.awaits with
  | frame hframe =>
    have hfirst := (ReceiveBuffer.nextFrame_eq_some hframe).1
    simp [h] at hfirst
  | timeout hsame _ hbuffer hdry =>
    have hall : s'.unread = s'.buffer := by
      simp [unread, ReceiveBuffer.receive, hdry hprompt]
    have hrest := (ReceiveBuffer.framesOf_eq_of_nextFrame_eq hsame).2
    rw [hall, h, remainder_nil, ← hbuffer] at hrest
    refine ⟨s', rfl, hwait.canRead, ?_, hwait.withoutBytes_eq⟩
    rw [hall, ← hrest]

end Prompt

end TimingBoard.Session
