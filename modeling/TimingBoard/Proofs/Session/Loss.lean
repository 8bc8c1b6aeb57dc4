import TimingBoard.Proofs.Call.Sequence
import TimingBoard.Proofs.Link.Observed
import TimingBoard.Proofs.Session.Reading

/-!
# Losing the connection

A session loses its connection when its link fails it, and at no other time.  The failure can come
at any point of a command: while the command is written, before its first frame, or before a later
frame of a list.  Whatever point it is, the call ends there with the fault of the link.

To say this the link is observed.  Every call reports what happened at the link: either nothing
ended the connection, and then the call does not say so, or the last event did, and then the call
fails with its fault.  What reports one after the other reports as a whole, so that this is shown
for one write and one read, and carried over to commands and their replies.

Once the connection is lost no call reaches the link any more.
-/

namespace TimingBoard

variable {L α β : Type}

namespace Session

/-! ## Observed sessions -/

/-- A session whose link is observed from now on. -/
def observed (s : Session L) : Session (Observed L) :=
  ⟨⟨s.link, []⟩, s.buffer, s.wait, s.connected, s.log⟩

/-- A session without the account of its link. -/
def unobserved (s : Session (Observed L)) : Session L :=
  ⟨s.link.link, s.buffer, s.wait, s.connected, s.log⟩

/-- A call that does over an observed link what another one does over the link itself. -/
def Watches (call : Call (Session (Observed L)) α) (plain : Call (Session L) α) : Prop :=
  ∀ s, plain.run s.unobserved = ((call.run s).1, (call.run s).2.unobserved)

lemma Watches.bind {call : Call (Session (Observed L)) α} {plain : Call (Session L) α}
    {next : α → Call (Session (Observed L)) β} {plainNext : α → Call (Session L) β}
    (h : Watches call plain) (hnext : ∀ a, Watches (next a) (plainNext a)) :
    Watches (call >>= next) (plain >>= plainNext) := by
  intro s
  have hplain := h s
  rcases hcall : call.run s with ⟨e | a, s'⟩
  · rw [hcall] at hplain
    rw [Call.run_bind_of_error hcall, Call.run_bind_of_error hplain]
  · rw [hcall] at hplain
    rw [Call.run_bind_of_ok hcall, Call.run_bind_of_ok hplain]
    exact hnext a s'

lemma watches_ofExcept (x : Except Error α) :
    Watches (L := L) (Call.ofExcept x) (Call.ofExcept x) := by
  intro s
  simp

lemma compatible_watches :
    Call.Compatible fun (call : Call (Session (Observed L)) _) (plain : Call (Session L) _) =>
      Watches call plain where
  ofExcept _ := watches_ofExcept _
  bind := Watches.bind

lemma watches_ensureConnected : Watches (L := L) ensureConnected ensureConnected := by
  intro s
  cases hconnected : s.connected <;>
    simp [ensureConnected, Call.run, unobserved, hconnected]

lemma watches_note (silent : Bool) (entry : LogEntry) :
    Watches (L := L) (note silent entry) (note silent entry) := by
  intro s
  cases silent <;> rfl

/-! ## Reports -/

/-- How a call of a connected session went. Either no event of its link ended the connection and the
call says nothing of the kind, or the last one did, and the call fails with its fault. -/
inductive Reported (s s' : Session (Observed L)) (result : Except Error α) : Prop
  | kept (events : List LinkEvent) : s'.link.account = s.link.account ++ events →
      (∀ event ∈ events, event.loss? = none) → s'.connected = true →
      Call.SparesConnection result → Reported s s' result
  | lost (events : List LinkEvent) (event : LinkEvent) (fault : LinkFault) :
      s'.link.account = s.link.account ++ (events ++ [event]) →
      (∀ event ∈ events, event.loss? = none) → event.loss? = some fault →
      s'.connected = false → result = .error (.network fault) → Reported s s' result

/-- A call that reports what happened at the link. -/
def Reports (call : Call (Session (Observed L)) α) : Prop :=
  ∀ s, s.connected = true → Reported s (call.run s).2 (call.run s).1

/-- What happened before a call comes before what happened during it. -/
lemma Reported.after {s s₁ s₂ : Session (Observed L)} {earlier : List LinkEvent}
    {result : Except Error α} (h : Reported s₁ s₂ result)
    (haccount : s₁.link.account = s.link.account ++ earlier)
    (hearlier : ∀ event ∈ earlier, event.loss? = none) : Reported s s₂ result := by
  have hboth {events : List LinkEvent} (hevents : ∀ event ∈ events, event.loss? = none) :
      ∀ event ∈ earlier ++ events, event.loss? = none := fun event hevent =>
    (List.mem_append.1 hevent).elim (hearlier event) (hevents event)
  cases h with
  | kept events hafter hnone hconnected hspares =>
    refine .kept (earlier ++ events) ?_ (hboth hnone) hconnected hspares
    rw [hafter, haccount, List.append_assoc]
  | lost events event fault hafter hnone hloss hconnected hresult =>
    refine .lost (earlier ++ events) event fault ?_ (hboth hnone) hloss hconnected hresult
    rw [hafter, haccount, List.append_assoc, List.append_assoc]

section Reported

variable {s s' : Session (Observed L)} {result : Except Error α}

/-- The connection is lost exactly when one of the events ends it. -/
lemma Reported.lost_iff (h : Reported s s' result) (hstart : s.link.account = []) :
    s'.connected = false ↔ ∃ event ∈ s'.link.account, event.loss?.isSome := by
  cases h with
  | kept events hafter hnone hconnected _ =>
    rw [hafter, hstart, List.nil_append, hconnected]
    refine ⟨by simp, ?_⟩
    rintro ⟨event, hevent, hloss⟩
    simp [hnone event hevent] at hloss
  | lost events event fault hafter hnone hloss hconnected hresult =>
    rw [hafter, hstart, List.nil_append]
    exact ⟨fun _ => ⟨event, by simp, by simp [hloss]⟩, fun _ => hconnected⟩

/-- The call fails with a fault of the link exactly when one of the events ends the connection with
it. -/
lemma Reported.eq_network_iff (h : Reported s s' result) (hstart : s.link.account = [])
    (fault : LinkFault) : result = .error (.network fault) ↔
      ∃ event ∈ s'.link.account, event.loss? = some fault := by
  cases h with
  | kept events hafter hnone hconnected hspares =>
    rw [hafter, hstart, List.nil_append]
    constructor
    · intro hresult
      cases hspares _ hresult
    · rintro ⟨event, hevent, hloss⟩
      simp [hnone event hevent] at hloss
  | lost events event first hafter hnone hloss hconnected hresult =>
    rw [hafter, hstart, List.nil_append, hresult]
    constructor
    · intro hsame
      refine ⟨event, by simp, ?_⟩
      rw [hloss, Error.network.inj (Except.error.inj hsame)]
    · rintro ⟨other, hother, hother_loss⟩
      rcases List.mem_append.1 hother with hmem | hmem
      · simp [hnone other hmem] at hother_loss
      · rw [List.mem_singleton.1 hmem, hloss] at hother_loss
        rw [Option.some.inj hother_loss]

/-- An error that is no fault of the link leaves the session connected. -/
lemma Reported.connected_of_error (h : Reported s s' result) {e : Error}
    (hresult : result = .error e)
    (hspares : e.losesConnection = false) : s'.connected = true := by
  cases h with
  | kept events hafter hnone hconnected _ => exact hconnected
  | lost events event fault hafter hnone hloss hconnected hnetwork =>
    rw [← Except.error.inj (hnetwork.symm.trans hresult)] at hspares
    cases hspares

end Reported

lemma reports_ofExcept {x : Except Error α} (h : Call.SparesConnection x) :
    Reports (L := L) (Call.ofExcept x) := by
  intro s hs
  rw [Call.run_ofExcept]
  exact .kept [] (by simp) (by simp) hs h

/-- Calls that report do so one after the other: the event that ends the connection ends the
call. -/
lemma Reports.bind {call : Call (Session (Observed L)) α}
    {next : α → Call (Session (Observed L)) β} (h : Reports call) (hnext : ∀ a, Reports (next a)) :
    Reports (call >>= next) := by
  intro s hs
  have hcall := h s hs
  rcases hrun : call.run s with ⟨e | a, s'⟩
  · rw [hrun] at hcall
    rw [Call.run_bind_of_error hrun]
    cases hcall with
    | kept events hafter hnone hconnected hspares =>
      refine .kept events hafter hnone hconnected (Call.sparesConnection_error ?_)
      exact hspares e rfl
    | lost events event fault hafter hnone hloss hconnected hresult =>
      exact .lost events event fault hafter hnone hloss hconnected
        (congrArg Except.error (Except.error.inj hresult))
  · rw [hrun] at hcall
    rw [Call.run_bind_of_ok hrun]
    cases hcall with
    | kept events hafter hnone hconnected _ =>
      exact (hnext a s' hconnected).after hafter hnone
    | lost events event fault _ _ _ _ hresult => cases hresult

lemma compatible_reports :
    Call.Compatible fun (call : Call (Session (Observed L)) _) (_ : Call Unit _) =>
      Reports call where
  ofExcept h := reports_ofExcept h.sparesConnection
  bind := Reports.bind

/-- A connected session passes the check. -/
lemma reports_ensureConnected : Reports (L := L) ensureConnected := by
  intro s hs
  have hrun : ensureConnected.run s = (.ok (), s) := by simp [ensureConnected, Call.run, hs]
  rw [hrun]
  exact .kept [] (by simp) (by simp) hs (Call.sparesConnection_ok ())

lemma reports_note (silent : Bool) (entry : LogEntry) : Reports (L := L) (note silent entry) := by
  intro s hs
  rw [run_note]
  refine .kept [] ?_ (by simp) ?_ (Call.sparesConnection_ok ()) <;>
    cases silent <;> simp [noted, hs]

variable [Link L]

/-! ## Writing -/

lemma watches_transmit (bytes : Bytes) : Watches (L := L) (transmit bytes) (transmit bytes) := by
  intro s
  rcases hwrite : Link.write bytes s.link with ⟨fault | ⟨⟩, link⟩
  · simp [transmit, Call.run, lose, unobserved, hwrite, (Observed.of_write hwrite).1]
  · rcases hflush : Link.flush link with ⟨fault | ⟨⟩, link'⟩ <;>
      simp [transmit, Call.run, lose, unobserved, hwrite, (Observed.of_write hwrite).1, hflush,
        (Observed.of_flush hflush).1]

/-- A connected session sends a command by transmitting its bytes. -/
lemma send_run {s : Session L} (hs : s.connected = true) {command : Command} :
    (send command).run s = (transmit command.encode).run s := by
  refine Call.run_bind_of_ok (a := ()) ?_
  simp [ensureConnected, Call.run, hs]

/-- What a transmission does at the link: the bytes are written and sent on, or the connection is
lost before or after they are written. -/
inductive Transmits (s s' : Session (Observed L)) (bytes : Bytes) : Except Error Unit → Prop
  | sent : s'.link.account = s.link.account ++ [.written bytes (.ok ()), .flushed (.ok ())] →
      s' = { s with link := s'.link } → Transmits s s' bytes (.ok ())
  | unwritten (fault : LinkFault) :
      s'.link.account = s.link.account ++ [.written bytes (.error fault)] →
      s'.connected = false → Transmits s s' bytes (.error (.network fault))
  | unsent (fault : LinkFault) :
      s'.link.account = s.link.account ++ [.written bytes (.ok ()), .flushed (.error fault)] →
      s'.connected = false → Transmits s s' bytes (.error (.network fault))

lemma transmits_transmit (bytes : Bytes) (s : Session (Observed L)) :
    Transmits s ((transmit bytes).run s).2 bytes ((transmit bytes).run s).1 := by
  rcases hwrite : Link.write bytes s.link with ⟨fault | ⟨⟩, link⟩
  · have hrun : (transmit bytes).run s = { s with link := link }.lose fault := by
      simp [transmit, Call.run, hwrite]
    rw [hrun]
    exact .unwritten fault (Observed.of_write hwrite).2 rfl
  · have hwritten : link.account = s.link.account ++ [.written bytes (.ok ())] :=
      (Observed.of_write hwrite).2
    rcases hflush : Link.flush link with ⟨fault | ⟨⟩, link'⟩
    · have hrun : (transmit bytes).run s = { s with link := link' }.lose fault := by
        simp [transmit, Call.run, hwrite, hflush]
      rw [hrun]
      refine .unsent fault ?_ rfl
      change link'.account = _
      simp [(Observed.of_flush hflush).2, hwritten]
    · have hrun : (transmit bytes).run s = (.ok (), { s with link := link' }) := by
        simp [transmit, Call.run, hwrite, hflush]
      rw [hrun]
      refine .sent ?_ rfl
      change link'.account = _
      simp [(Observed.of_flush hflush).2, hwritten]

/-- A write that fails is reported, and so is a failure to send on what was written. -/
lemma reports_transmit (bytes : Bytes) : Reports (L := L) (transmit bytes) := by
  intro s hs
  have htransmits := transmits_transmit bytes s
  generalize (transmit bytes).run s = outcome at htransmits ⊢
  obtain ⟨result, s'⟩ := outcome
  change Transmits s s' bytes result at htransmits
  cases htransmits with
  | sent haccount hsame =>
    have hconnected : s'.connected = true := (congrArg Session.connected hsame).trans hs
    exact .kept _ haccount (by simp [LinkEvent.loss?]) hconnected (Call.sparesConnection_ok ())
  | unwritten fault haccount hlost => exact .lost [] _ fault haccount (by simp) rfl hlost rfl
  | unsent fault haccount hlost =>
    exact .lost [.written bytes (.ok ())] (.flushed (.error fault)) fault haccount
      (by simp [LinkEvent.loss?]) rfl hlost rfl

/-! ## Reading -/

/-- What a read of the link leads to while a session waits for a frame. -/
lemma awaitFrame_of_read {s : Session L} {buffer : ReceiveBuffer}
    {result : Except LinkFault Bytes} {link : L} (hnone : s.buffer.nextFrame = (none, buffer))
    (hread : Link.read readSize s.link = (result, link)) :
    awaitFrame s =
      match result with
      | .ok chunk =>
        if chunk = [] then { s with link := link, buffer := buffer }.lose .closedByPeer
        else awaitFrame { s with link := link, buffer := buffer.receive chunk }
      | .error fault =>
        if fault.kind = .interrupted then awaitFrame { s with link := link, buffer := buffer }
        else if fault.kind = .timedOut ∨ fault.kind = .wouldBlock then
          (.error .timeout, { s with link := link, buffer := buffer })
        else { s with link := link, buffer := buffer }.lose fault := by
  rw [awaitFrame]
  split
  · next hframe => simp [hnone] at hframe
  · next buffer' hframe =>
    obtain rfl : buffer' = buffer := congrArg Prod.snd (hframe.symm.trans hnone)
    split
    · next chunk link' h =>
      obtain ⟨rfl, rfl⟩ := Prod.mk.inj (h.symm.trans hread)
      split <;> simp_all
    · next fault link' h =>
      obtain ⟨rfl, rfl⟩ := Prod.mk.inj (h.symm.trans hread)
      split
      · simp_all
      · split <;> simp_all

lemma awaitFrame_of_frame {s : Session L} {buffer : ReceiveBuffer} {frame : Frame}
    (hframe : s.buffer.nextFrame = (some frame, buffer)) :
    awaitFrame s = (.ok frame, { s with buffer := buffer }) := by
  rw [awaitFrame]
  split
  · next frame' buffer' h =>
    obtain ⟨h₁, rfl⟩ := Prod.mk.inj (h.symm.trans hframe)
    rw [Option.some.inj h₁]
  · next h => simp [hframe] at h

lemma watches_awaitFrame : Watches (L := L) awaitFrame awaitFrame := by
  intro s
  change awaitFrame s.unobserved = ((awaitFrame s).1, (awaitFrame s).2.unobserved)
  fun_induction awaitFrame s with
  | case1 s frame buffer hframe => exact awaitFrame_of_frame hframe
  | case2 s buffer hnone link hread =>
    rw [awaitFrame_of_read (s := s.unobserved) hnone (Observed.of_read hread).1]
    rfl
  | case3 s buffer hnone chunk link hread hchunk ih =>
    rw [awaitFrame_of_read (s := s.unobserved) hnone (Observed.of_read hread).1, ← ih]
    simp [hchunk, unobserved]
  | case4 s buffer hnone fault link hread hkind ih =>
    rw [awaitFrame_of_read (s := s.unobserved) hnone (Observed.of_read hread).1, ← ih]
    simp [hkind, unobserved]
  | case5 s buffer hnone fault link hread hkind hwait =>
    rw [awaitFrame_of_read (s := s.unobserved) hnone (Observed.of_read hread).1]
    simp [hkind, hwait, unobserved]
  | case6 s buffer hnone fault link hread hkind hwait =>
    rw [awaitFrame_of_read (s := s.unobserved) hnone (Observed.of_read hread).1]
    simp [hkind, hwait, unobserved, lose]

/-- Waiting for a frame reports every read: those that bring bytes or are interrupted go before the
one that ends the wait. -/
lemma reports_awaitFrame : Reports (L := L) awaitFrame := by
  intro s hs
  change Reported s (awaitFrame s).2 (awaitFrame s).1
  have hone {event : LinkEvent} (h : event.loss? = none) :
      ∀ event' ∈ [event], event'.loss? = none := by simpa using h
  fun_induction awaitFrame s with
  | case1 s frame buffer hframe =>
    exact .kept [] (by simp) (by simp) hs (Call.sparesConnection_ok frame)
  | case2 s buffer hnone link hread =>
    exact .lost [] (.read (.ok [])) .closedByPeer (Observed.of_read hread).2 (by simp) rfl rfl rfl
  | case3 s buffer hnone chunk link hread hchunk ih =>
    exact (ih hs).after (Observed.of_read hread).2 (hone (by simp [LinkEvent.loss?, hchunk]))
  | case4 s buffer hnone fault link hread hkind ih =>
    exact (ih hs).after (Observed.of_read hread).2
      (hone (by simp [LinkEvent.loss?, FaultKind.canRetry, hkind]))
  | case5 s buffer hnone fault link hread hkind hwait =>
    refine .kept [.read (.error fault)] (Observed.of_read hread).2 (hone ?_) hs
      (Call.sparesConnection_error rfl)
    rcases hwait with hwait | hwait <;> simp [LinkEvent.loss?, FaultKind.canRetry, hwait]
  | case6 s buffer hnone fault link hread hkind hwait =>
    refine .lost [] (.read (.error fault)) fault (Observed.of_read hread).2 (by simp) ?_ rfl rfl
    rcases fault with ⟨kind, message⟩
    cases kind <;> simp_all [LinkEvent.loss?, FaultKind.canRetry]

/-! ## Commands -/

lemma watches_send (command : Command) :
    Watches (L := L) (send command) (send command) :=
  watches_ensureConnected.bind fun _ => watches_transmit _

lemma watches_readFrame : Watches (L := L) readFrame readFrame :=
  watches_ensureConnected.bind fun _ => watches_awaitFrame

lemma watches_execute (command : Command) (silent : Bool) :
    Watches (L := L) (execute command silent) (execute command silent) :=
  (watches_send command).bind fun _ => (watches_note silent _).bind fun _ =>
    watches_readFrame.bind fun frame => (watches_note silent _).bind fun _ =>
      compatible_watches.decode watches_readFrame command frame

/-- Once the connection is lost a command fails, and does nothing else. -/
lemma execute_run_of_lost {s : Session L} (hs : s.connected = false) {command : Command}
    {silent : Bool} : (execute command silent).run s = (.error .notConnected, s) :=
  Call.run_bind_of_error (ensureConnected_bind_run hs _)

lemma reports_send (command : Command) : Reports (L := L) (send command) :=
  reports_ensureConnected.bind fun _ => reports_transmit _

lemma reports_readFrame : Reports (L := L) readFrame :=
  reports_ensureConnected.bind fun _ => reports_awaitFrame

/-- A command reports whatever frame of its reply the link fails at. -/
lemma reports_execute (command : Command) (silent : Bool) :
    Reports (L := L) (execute command silent) := by
  -- Nothing is asked of the second call of the relation, so that any source of frames will do for
  -- it.
  have hdecode (frame : Frame) : Reports (L := L) (Reply.decode readFrame command frame) :=
    @Call.Compatible.decode (Session (Observed L)) Unit _ compatible_reports readFrame
      (Call.fail .timeout) reports_readFrame command frame
  exact (reports_send command).bind fun _ => (reports_note silent _).bind fun _ =>
    reports_readFrame.bind fun frame => (reports_note silent _).bind fun _ => hdecode frame

end Session

/-! ## What is done with a session -/

/-- Something that is done with a session. -/
inductive SessionAct where
  | send (command : Command)
  | readFrame
  | execute (command : Command) (silent : Bool)
  | executeLine (typed : Text) (silent : Bool)

/-- What it answers. -/
inductive SessionAnswer where
  | sent
  | frame (value : Frame)
  | reply (value : Reply)

namespace SessionAct

open Session

/-- The call of an act. -/
def perform [Link L] : SessionAct → Call (Session L) SessionAnswer
  | send command => (fun _ => .sent) <$> Session.send command
  | readFrame => .frame <$> Session.readFrame
  | execute command silent => .reply <$> Session.execute command silent
  | executeLine typed silent => .reply <$> Session.executeLine typed silent

/-- What happens at the link during an act. -/
def events [Link L] (act : SessionAct) (s : Session L) : List LinkEvent :=
  (act.perform.run s.observed).2.link.account

/-- The error of an act once the connection is lost: a typed line that is no command is refused
before anything else is looked at. -/
def lostError : SessionAct → Error
  | executeLine typed _ =>
    match Command.read typed with
    | .error cause => .refused cause
    | .ok _ => .notConnected
  | _ => .notConnected

variable [Link L] {s : Session L}

/-- An act does the same whether its link is observed or not. -/
lemma watches_perform (act : SessionAct) : Watches (L := L) act.perform act.perform := by
  cases act with
  | send command => exact (watches_send command).bind fun _ => watches_ofExcept (.ok _)
  | readFrame => exact watches_readFrame.bind fun _ => watches_ofExcept (.ok _)
  | execute command silent =>
    exact (watches_execute command silent).bind fun _ => watches_ofExcept (.ok _)
  | executeLine typed silent =>
    exact ((watches_ofExcept _).bind fun command => watches_execute command silent).bind
      fun _ => watches_ofExcept (.ok _)

lemma reports_perform (act : SessionAct) : Reports (L := L) act.perform := by
  have hanswer (answer : SessionAnswer) : Reports (L := L) (pure answer) :=
    reports_ofExcept (Call.sparesConnection_ok answer)
  cases act with
  | send command => exact (reports_send command).bind fun _ => hanswer _
  | readFrame => exact reports_readFrame.bind fun _ => hanswer _
  | execute command silent => exact (reports_execute command silent).bind fun _ => hanswer _
  | executeLine typed silent =>
    have hread : Call.SparesConnection ((Command.read typed).mapError Error.refused) := by
      cases Command.read typed with
      | error cause => exact Call.sparesConnection_error rfl
      | ok command => exact Call.sparesConnection_ok command
    exact ((reports_ofExcept hread).bind fun command => reports_execute command silent).bind
      fun _ => hanswer _

/-- What becomes of a connection is seen from the observed act. -/
lemma perform_run (act : SessionAct) (s : Session L) :
    act.perform.run s =
      ((act.perform.run s.observed).1, (act.perform.run s.observed).2.unobserved) :=
  watches_perform act s.observed

/-! ## After the loss -/

/-- Once the connection is lost an act fails, and does nothing else. -/
lemma perform_run_of_lost (act : SessionAct) (hs : s.connected = false) :
    act.perform.run s = (.error act.lostError, s) := by
  cases act with
  | send command => exact Call.run_bind_of_error (ensureConnected_bind_run hs _)
  | readFrame => exact Call.run_bind_of_error (ensureConnected_bind_run hs _)
  | execute command silent => exact Call.run_bind_of_error (execute_run_of_lost hs)
  | executeLine typed silent =>
    refine Call.run_bind_of_error ?_
    cases hread : Command.read typed with
    | error cause =>
      simp only [Session.executeLine, lostError, hread]
      rfl
    | ok command =>
      simp only [Session.executeLine, lostError, hread]
      exact execute_run_of_lost hs

lemma runAll_of_lost (acts : List SessionAct) (hs : s.connected = false) :
    Call.runAll perform acts s = (acts.map fun act => .error act.lostError, s) := by
  induction acts with
  | nil => rfl
  | cons act rest ih => rw [Call.runAll_cons, perform_run_of_lost act hs, ih, List.map_cons]

/-- Once the connection is lost nothing happens at the link. -/
lemma events_of_lost (act : SessionAct) (hs : s.connected = false) : act.events s = [] := by
  have hrun := act.perform_run_of_lost (s := s.observed) hs
  rw [events, hrun]
  rfl

end SessionAct

end TimingBoard
