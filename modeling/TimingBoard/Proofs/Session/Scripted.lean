import TimingBoard.Link.Script
import TimingBoard.Proofs.Session.Offered

/-!
# Commands over a script

A script holds a number of chunks, of any length and with anything in them.  It is read in pieces of
a limited length, and an empty chunk is a piece as well, which looks like the end of the link.  A
command may be answered by a list of which the peer announces any length.

Each read takes one piece of the script, but for the one that finds none; and that one ends the
command.  So the reads made and the pieces left are together no more than they were, and one more
when a command fails, however many frames were announced.  Nor does the announcement make anything
up: the frames of the bytes that the script brings are all there is, and a list for which they do
not suffice fails with the end of the script.
-/

namespace TimingBoard

/-! ## Pieces -/

/-- The number of pieces of at most so many bytes in which chunks are read. -/
def pieces (size : Nat) : List Bytes → Nat
  | [] => 0
  | chunk :: rest => max 1 ((chunk.length + (size - 1)) / size) + pieces size rest

/-- What is taken from the first chunk is one piece. -/
lemma pieces_of_takeChunk? {size : Nat} {chunks rest : List Bytes} {chunk : Bytes}
    (hsize : 0 < size)
    (h : takeChunk? size chunks = some (chunk, rest)) :
      pieces size rest + 1 = pieces size chunks := by
  cases chunks with
  | nil => cases h
  | cons first more =>
    rw [takeChunk?] at h
    rw [pieces]
    split at h
    · next hshort =>
      obtain ⟨-, rfl⟩ := Prod.mk.inj (Option.some.inj h)
      have hone : (first.length + (size - 1)) / size < 2 := by
        rw [Nat.div_lt_iff_lt_mul hsize]
        omega
      omega
    · next hlong =>
      obtain ⟨-, rfl⟩ := Prod.mk.inj (Option.some.inj h)
      have hmore : (first.length - size + (size - 1)) / size + 1 =
          (first.length + (size - 1)) / size := by
        rw [← Nat.add_div_right _ hsize]
        congr 1
        omega
      have hpos : 1 ≤ (first.length - size + (size - 1)) / size :=
        (Nat.one_le_div_iff hsize).2 (by omega)
      rw [pieces, List.length_drop]
      omega

/-! ## Reads -/

/-- Whether something that was done with a link is a read. -/
def LinkEvent.isRead : LinkEvent → Bool
  | read _ => true
  | _ => false

namespace Session

open ReceiveBuffer

variable {α β : Type}

/-- The reads that were made of a script, and the pieces that are left of it. -/
def effort (s : Session (Observed Script)) : Nat :=
  s.link.account.countP LinkEvent.isRead + pieces readSize s.link.link.chunks

/-- A call that reads one piece at a time, and fails with a read that finds none. -/
def ReadsPieces (call : Call (Session (Observed Script)) α) : Prop :=
  ∀ s, (call.run s).2.effort ≤ s.effort + if (call.run s).1.isOk then 0 else 1

/-- One call after the other does so, since nothing follows a failure. -/
lemma ReadsPieces.bind {call : Call (Session (Observed Script)) α}
    {next : α → Call (Session (Observed Script)) β} (h : ReadsPieces call)
    (hnext : ∀ a, ReadsPieces (next a)) : ReadsPieces (call >>= next) := by
  intro s
  have hcall := h s
  rcases hrun : call.run s with ⟨e | a, t⟩
  · rw [hrun] at hcall
    rw [Call.run_bind_of_error hrun]
    exact hcall
  · rw [hrun] at hcall
    rw [Call.run_bind_of_ok hrun]
    exact (hnext a t).trans (Nat.add_le_add_right hcall _)

/-- A call that leaves the reads and the script alone. -/
lemma readsPieces_of_effort_eq {call : Call (Session (Observed Script)) α}
    (h : ∀ s, (call.run s).2.effort = s.effort) : ReadsPieces call :=
  fun s => (h s).le.trans (Nat.le_add_right _ _)

lemma readsPieces_ofExcept (x : Except Error α) : ReadsPieces (Call.ofExcept x) :=
  readsPieces_of_effort_eq fun s => by rw [Call.run_ofExcept]

lemma compatible_readsPieces :
    Call.Compatible fun (call : Call (Session (Observed Script)) _) (_ : Call Unit _) =>
      ReadsPieces call where
  ofExcept _ := readsPieces_ofExcept _
  bind := ReadsPieces.bind

lemma readsPieces_ensureConnected : ReadsPieces ensureConnected :=
  readsPieces_of_effort_eq fun s => by
    cases hs : s.connected <;> simp [ensureConnected, Call.run, hs]

lemma readsPieces_note (silent : Bool) (entry : LogEntry) : ReadsPieces (note silent entry) :=
  readsPieces_of_effort_eq fun s => by cases silent <;> rfl

/-- To write is not to read. -/
lemma readsPieces_transmit (bytes : Bytes) : ReadsPieces (transmit bytes) := by
  refine readsPieces_of_effort_eq fun s => ?_
  obtain ⟨⟨⟨chunks, closing, failing, written⟩, account⟩, buffer, wait, connected, log⟩ := s
  cases failing with
  | true =>
    change List.countP _ (account ++ [.written bytes (.error Script.brokenWrite)]) +
      pieces readSize chunks = _
    simp [effort, LinkEvent.isRead]
  | false =>
    change List.countP _ (account ++ [.written bytes (.ok ())] ++ [.flushed (.ok ())]) +
      pieces readSize chunks = _
    simp [effort, LinkEvent.isRead]

lemma readsPieces_send (command : Command) : ReadsPieces (send command) :=
  readsPieces_ensureConnected.bind fun _ => readsPieces_transmit _

/-- A read takes a piece, or it is the one that finds none. -/
lemma effort_of_read {s : Session (Observed Script)} {result : Except LinkFault Bytes}
    {link : Observed Script} (h : Link.read readSize s.link = (result, link))
    (buffer : ReceiveBuffer) :
    let t : Session (Observed Script) := { s with link := link, buffer := buffer }
    t.effort = s.effort ∨ t.effort = s.effort + 1 ∧ ∀ chunk, result = .ok chunk → chunk = [] := by
  intro t
  obtain ⟨hread, haccount⟩ := Observed.of_read h
  have hcount : link.account.countP LinkEvent.isRead =
      s.link.account.countP LinkEvent.isRead + 1 := by
    simp [haccount, LinkEvent.isRead]
  change s.link.link.read readSize = (result, link.link) at hread
  unfold Script.read at hread
  split at hread
  · next chunk rest htake =>
    obtain ⟨-, hscript⟩ := Prod.mk.inj hread
    have hpieces := pieces_of_takeChunk? (by decide) htake
    refine .inl ?_
    simp only [t, effort, ← hscript]
    omega
  · obtain ⟨hresult, hscript⟩ := Prod.mk.inj hread
    refine .inr ⟨?_, fun chunk hchunk => ?_⟩
    · simp only [t, effort, ← hscript]
      omega
    · subst hchunk
      split at hresult
      · exact (Except.ok.inj hresult).symm
      · cases hresult

lemma readsPieces_awaitFrame : ReadsPieces awaitFrame := by
  intro s
  change (awaitFrame s).2.effort ≤ s.effort + if (awaitFrame s).1.isOk then 0 else 1
  -- A wait that ends with a read may end with the one that finds none.
  have hlast {s t : Session (Observed Script)} (h : t.effort = s.effort ∨ t.effort = s.effort + 1) :
      t.effort ≤ s.effort + 1 := by
    omega
  fun_induction awaitFrame s with
  | case1 s frame buffer hframe => exact Nat.le_refl _
  | case2 s buffer hnone link hread =>
    exact hlast ((effort_of_read hread buffer).imp_right And.left)
  | case3 s buffer hnone chunk link hread hchunk ih =>
    have hsame := (effort_of_read hread (buffer.receive chunk)).resolve_right
      fun h => hchunk (h.2 chunk rfl)
    rwa [hsame] at ih
  | case4 s buffer hnone fault link hread hkind ih =>
    exact absurd hkind (Script.not_interrupted_of_read (Observed.of_read hread).1)
  | case5 s buffer hnone fault link hread hkind hwait =>
    exact hlast ((effort_of_read hread buffer).imp_right And.left)
  | case6 s buffer hnone fault link hread hkind hwait =>
    exact hlast ((effort_of_read hread buffer).imp_right And.left)

lemma readsPieces_readFrame : ReadsPieces readFrame :=
  readsPieces_ensureConnected.bind fun _ => readsPieces_awaitFrame

lemma readsPieces_execute (command : Command) (silent : Bool) :
    ReadsPieces (execute command silent) := by
  -- Nothing is asked of the second call of the relation, so that any source of frames will do for
  -- it.
  have hdecode (f : Frame) : ReadsPieces (Reply.decode readFrame command f) :=
    @Call.Compatible.decode (Session (Observed Script)) Unit _ compatible_readsPieces readFrame
      (Call.fail .timeout) readsPieces_readFrame command f
  exact (readsPieces_send command).bind fun _ => (readsPieces_note silent _).bind fun _ =>
    readsPieces_readFrame.bind fun f => (readsPieces_note silent _).bind fun _ => hdecode f

end Session

/-! ## What a script brings -/

namespace Script

/-- The bytes of a script before its first empty chunk. -/
def brings (s : Script) : Bytes := (s.chunks.takeWhile (· ≠ [])).flatten

/-- The error of a read behind the bytes that a script brings. -/
def ending (s : Script) : Error :=
  if s.closing ∨ [] ∈ s.chunks then .network .closedByPeer else .timeout

variable {size : Nat} {s t : Script}

/-- A read that brings bytes takes them from the front, and the end remains the same. -/
lemma of_read_bytes {chunk : Bytes} (h : s.read size = (.ok chunk, t)) (hchunk : chunk ≠ []) :
    s.brings = chunk ++ t.brings ∧ s.ending = t.ending := by
  obtain ⟨chunks, closing, failing, written⟩ := s
  cases chunks with
  | nil => cases closing <;> simp_all [Script.read, takeChunk?]
  | cons first more =>
    by_cases hshort : first.length ≤ size
    · simp only [Script.read, takeChunk?, if_pos hshort, Prod.mk.injEq, Except.ok.injEq] at h
      obtain ⟨rfl, rfl⟩ := h
      simp [brings, ending, hchunk, hchunk.symm]
    · simp only [Script.read, takeChunk?, if_neg hshort, Prod.mk.injEq, Except.ok.injEq] at h
      obtain ⟨rfl, rfl⟩ := h
      have hfirst : first ≠ [] := by
        rintro rfl
        exact hshort (Nat.zero_le _)
      have hrest : first.drop size ≠ [] := fun hdrop => hshort (List.drop_eq_nil_iff.1 hdrop)
      simp [brings, ending, hfirst, hfirst.symm, hrest, hrest.symm, ← List.append_assoc]

/-- A read that finds the link closed is behind all bytes. -/
lemma of_read_closed (hsize : 0 < size) (h : s.read size = (.ok [], t)) :
    s.brings = [] ∧ s.ending = .network .closedByPeer := by
  obtain ⟨chunks, closing, failing, written⟩ := s
  cases chunks with
  | nil => cases closing <;> simp_all [Script.read, takeChunk?, brings, ending]
  | cons first more =>
    have hfirst : first = [] := by
      by_cases hshort : first.length ≤ size
      · simp only [Script.read, takeChunk?, if_pos hshort, Prod.mk.injEq, Except.ok.injEq] at h
        exact h.1
      · simp only [Script.read, takeChunk?, if_neg hshort, Prod.mk.injEq, Except.ok.injEq] at h
        exact (List.take_eq_nil_iff.1 h.1).resolve_left hsize.ne'
    simp [brings, ending, hfirst]

/-- A read that fails is behind all bytes, and waits too long. -/
lemma of_read_error {fault : LinkFault} (h : s.read size = (.error fault, t)) :
    fault = exhausted ∧ s.brings = [] ∧ s.ending = .timeout := by
  obtain ⟨chunks, closing, failing, written⟩ := s
  cases chunks with
  | nil => cases closing <;> simp_all [Script.read, takeChunk?, brings, ending]
  | cons first more =>
    simp only [Script.read, takeChunk?] at h
    split_ifs at h <;> cases h

end Script

namespace Session

open ReceiveBuffer

/-- A session over a script has these frames to come, and then this error. -/
structure Expects (s : Session Script) (frames : List Frame) (e : Error) : Prop where
  connected : s.connected = true
  frames_eq : framesOf (s.buffer.bytes ++ s.link.brings) = frames
  ending_eq : s.link.ending = e

/-- What becomes of a wait for a frame: the first frame, or the error if there is none. -/
inductive ComesOf : List Frame → Error → Except Error Frame × Session Script → Prop
  | frame {t : Session Script} {f : Frame} {rest : List Frame} {e : Error} :
      t.Expects rest e → ComesOf (f :: rest) e (.ok f, t)
  | ending (t : Session Script) (e : Error) : ComesOf [] e (.error e, t)

variable {s t : Session Script} {frames rest : List Frame} {f : Frame} {e : Error}

lemma Expects.comesOf (h : s.Expects frames e) : ComesOf frames e (awaitFrame s) := by
  -- Behind the bytes of the script there are no frames but those that are held already.
  have hnone' {buffer after : ReceiveBuffer} (hnone : buffer.nextFrame = (none, after)) :
      framesOf (buffer.bytes ++ []) = [] := by
    rw [List.append_nil, (nextFrame_eq_none hnone).1]
  obtain ⟨hconnected, rfl, rfl⟩ := h
  fun_induction awaitFrame s with
  | case1 s frame buffer hframe =>
    rw [framesOf_append_of_frame hframe]
    exact .frame ⟨hconnected, rfl, rfl⟩
  | case2 s buffer hnone link hread =>
    obtain ⟨hbrings, hending⟩ := Script.of_read_closed (by decide) hread
    rw [hbrings, hending, hnone' hnone]
    exact .ending _ _
  | case3 s buffer hnone chunk link hread hchunk ih =>
    obtain ⟨hbrings, hending⟩ := Script.of_read_bytes hread hchunk
    rw [hbrings, hending, framesOf_append_of_none hnone, ← List.append_assoc]
    exact ih hconnected
  | case4 s buffer hnone fault link hread hkind ih =>
    exact absurd hkind (Script.not_interrupted_of_read hread)
  | case5 s buffer hnone fault link hread hkind hwait =>
    obtain ⟨-, hbrings, hending⟩ := Script.of_read_error hread
    rw [hbrings, hending, hnone' hnone]
    exact .ending _ _
  | case6 s buffer hnone fault link hread hkind hwait =>
    obtain ⟨rfl, -, -⟩ := Script.of_read_error hread
    exact absurd (Or.inl rfl) hwait

lemma Expects.readFrame_run (h : s.Expects (f :: rest) e) :
    ∃ t, readFrame.run s = (.ok f, t) ∧ t.Expects rest e := by
  rw [Session.readFrame_run h.connected]
  rcases hwait : awaitFrame s with ⟨result, t⟩
  have hcomes := h.comesOf
  rw [hwait] at hcomes
  cases hcomes with
  | frame hrest => exact ⟨t, rfl, hrest⟩

lemma Expects.readFrame_run_nil (h : s.Expects [] e) : ∃ t, readFrame.run s = (.error e, t) := by
  rw [Session.readFrame_run h.connected]
  rcases hwait : awaitFrame s with ⟨result, t⟩
  have hcomes := h.comesOf
  rw [hwait] at hcomes
  cases hcomes with
  | ending => exact ⟨t, rfl⟩

/-- Frames that are to come are handed out one after the other. -/
lemma Expects.yields {taken : List Frame} (h : s.Expects (taken ++ rest) e) :
    ∃ t, Reply.Yields readFrame s taken t ∧ t.Expects rest e := by
  induction taken generalizing s with
  | nil => exact ⟨s, .nil s, h⟩
  | cons f taken ih =>
    obtain ⟨t, hread, ht⟩ := h.readFrame_run
    obtain ⟨u, hyields, hu⟩ := ih ht
    exact ⟨u, .cons hread hyields, hu⟩

/-- Behind the frames that are to come there is the error. -/
lemma Expects.failsAfter (h : s.Expects frames e) :
    ∃ u, Reply.FailsAfter readFrame s frames.length e u := by
  rw [← List.append_nil frames] at h
  obtain ⟨t, hyields, ht⟩ := h.yields
  obtain ⟨u, hfails⟩ := ht.readFrame_run_nil
  exact ⟨u, frames, t, rfl, hyields, hfails⟩

lemma Expects.noted (h : s.Expects frames e) (silent : Bool) (entry : LogEntry) :
    (s.noted silent entry).Expects frames e := by
  cases silent
  · exact ⟨h.connected, h.frames_eq, h.ending_eq⟩
  · exact h

/-- To write changes nothing of what is to come. -/
lemma Expects.send_run (h : s.Expects frames e) (hwrites : s.link.failing = false)
    (command : Command) : ∃ t, (send command).run s = (.ok (), t) ∧ t.Expects frames e := by
  obtain ⟨⟨chunks, closing, failing, written⟩, buffer, wait, connected, log⟩ := s
  obtain rfl : connected = true := h.connected
  obtain rfl : failing = false := hwrites
  exact ⟨_, rfl, rfl, h.frames_eq, h.ending_eq⟩

/-- **A command over a script comes to an end.**  It does the same over an observed script, and
there it makes at most one read more than the script has pieces.  If the session is connected and
the command can be written, then without a frame it fails with the end of the script.  With a first
frame that announces a list it fails with the end of the script as well, if fewer frames follow than
are announced; and otherwise it answers the list of as many frames as are announced.  Without an
announcement the first frame decides. -/
theorem execute_over_script (s : Session Script) (command : Command) (silent : Bool) :
    let watched := (execute command silent).run s.observed
    let frames := framesOf (s.buffer.bytes ++ s.link.brings)
    (execute command silent).run s = (watched.1, watched.2.unobserved) ∧
      watched.2.link.account.countP LinkEvent.isRead ≤ pieces readSize s.link.chunks + 1 ∧
      (s.connected = true → s.link.failing = false →
        (frames = [] → watched.1 = .error s.link.ending) ∧
        ∀ f rest, frames = f :: rest →
          (∀ l n, Reply.Announces command f l n →
            (rest.length < n → watched.1 = .error s.link.ending) ∧
            (n ≤ rest.length → ∃ reply, l.Reads (rest.take n) reply ∧ watched.1 = .ok reply)) ∧
          ((∀ l n, ¬ Reply.Announces command f l n) → Reply.Judges command f watched.1)) := by
  intro watched frames
  have hsame : (execute command silent).run s = (watched.1, watched.2.unobserved) :=
    watches_execute command silent s.observed
  refine ⟨hsame, ?_, fun hconnected hwrites => ?_⟩
  · have heffort : watched.2.effort ≤ s.observed.effort + if watched.1.isOk then 0 else 1 :=
      readsPieces_execute command silent s.observed
    have hstart : s.observed.effort = pieces readSize s.link.chunks := Nat.zero_add _
    have hreads : watched.2.link.account.countP LinkEvent.isRead ≤ watched.2.effort :=
      Nat.le_add_right _ _
    have hend : (if watched.1.isOk then 0 else 1) ≤ 1 := by
      split <;> decide
    omega
  · have hexpects : s.Expects frames s.link.ending := ⟨hconnected, rfl, rfl⟩
    have hresult : watched.1 = ((execute command silent).run s).1 := by rw [hsame]
    obtain ⟨t, hsend, ht⟩ := hexpects.send_run hwrites command
    rw [execute_run_of_send hsend] at hresult
    have hbefore := ht.noted silent (.sent command)
    refine ⟨fun hnil => ?_, fun f rest hcons => ?_⟩
    · rw [hnil] at hbefore
      obtain ⟨u, hread⟩ := hbefore.readFrame_run_nil
      rw [hresult, Call.run_bind_of_error hread]
    · rw [hcons] at hbefore
      obtain ⟨u, hread, hu⟩ := hbefore.readFrame_run
      rw [Call.run_bind_of_ok hread, Call.run_bind_of_ok (run_note silent _ u)] at hresult
      have hafter := hu.noted silent (.received f)
      refine ⟨fun l n hannounces => ⟨fun hfew => ?_, fun hmany => ?_⟩, fun hnone => ?_⟩
      · obtain ⟨v, hfails⟩ := hafter.failsAfter
        rw [hresult, hannounces.decode_run_of_failsAfter hfew hfails]
      · rw [← List.take_append_drop n rest] at hafter
        obtain ⟨v, hyields, -⟩ := hafter.yields
        refine ⟨_, Reply.Listing.reads_iff.2 rfl, ?_⟩
        rw [hresult, hannounces.decode_run (List.length_take_of_le hmany) hyields]
      · rcases Reply.judges_or_announces command f with ⟨x, hjudges⟩ | ⟨l, n, hannounces⟩
        · rw [hresult, hjudges.decode_eq, Call.run_ofExcept]
          exact hjudges
        · exact absurd hannounces (hnone l n)

/-- As many lines are announced as a number of 64 bits can say, and one comes: after the two pieces
of the script, a third read waits too long. -/
theorem execute_over_script_longestList :
    let chunks : List Bytes := [Text.toUtf8 "MSR LST NUM 18446744073709551615\r\n".toList,
      Text.toUtf8 "noise\r\nMSR LST 4 7\r\n".toList]
    let s : Session Script := ⟨.ofChunks chunks, .empty, defaultWait, true, .empty⟩
    let list : Command := ⟨.measure, "LST".toList, by decide, by decide⟩
    let first : Frame := ⟨.measurement, "LST NUM 18446744073709551615".toList⟩
    let watched := (execute list false).run s.observed
    framesOf s.link.brings = [first, ⟨.measurement, "LST 4 7".toList⟩] ∧
      Reply.Announces list first .measurements 18446744073709551615 ∧
      watched.1 = .error .timeout ∧ watched.2.link.account.countP LinkEvent.isRead ≤ 3 := by
  intro chunks s list first watched
  have hframes : framesOf (s.buffer.bytes ++ s.link.brings) =
      [first, ⟨.measurement, "LST 4 7".toList⟩] := by
    decide +kernel
  have hannounces : Reply.Announces list first .measurements 18446744073709551615 := by
    have hdigits : Payload.Consists Text.isDecimalDigit "18446744073709551615".toList :=
      ⟨by decide, by decide⟩
    exact ⟨rfl, rfl, _, Payload.startsWithRun_append "LST NUM " hdigits, by decide +kernel⟩
  have hpieces : pieces readSize s.link.chunks = 2 := by decide +kernel
  obtain ⟨-, hreads, houtcome⟩ := execute_over_script s list false
  have hcut := ((houtcome rfl rfl).2 _ _ hframes).1 _ _ hannounces
  refine ⟨hframes, hannounces, hcut.1 (by decide), ?_⟩
  rwa [hpieces] at hreads

end Session

end TimingBoard
