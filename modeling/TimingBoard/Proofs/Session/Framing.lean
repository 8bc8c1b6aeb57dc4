import TimingBoard.Proofs.Frame.Taking
import TimingBoard.Proofs.Session.Reading

/-!
# Framing over a script

A session that only reads meets two kinds of events: bytes arrive, and it is asked for a frame.  The
bytes arrive in chunks of any length, cut anywhere, before or after any number of reads that found
nothing.  The frames that are returned are those of all the bytes that arrived, taken together: each
read brings the next of them, and it times out exactly when they have all been returned.

The invariant is a conservation law: the frames returned so far, followed by those that are awaited,
are the frames of everything that has arrived.
-/

namespace TimingBoard.Session

/-- Bytes that arrive at once. A chunk without bytes would look like the end of the stream. -/
abbrev Chunk : Type := { bytes : Bytes // bytes ≠ [] }

/-- What happens to a session that only reads. -/
inductive ReadingEvent where
  /-- Bytes arrive. -/
  | arrival (chunk : Chunk)
  /-- The session is asked for a frame. -/
  | read

/-- What the reads among some events bring, and the session after them. -/
def reads : List ReadingEvent → Session Script → List (Except Error Frame) × Session Script
  | [], s => ([], s)
  | .arrival chunk :: rest, s => reads rest { s with link := s.link.push chunk.1 }
  | .read :: rest, s =>
    let (result, s) := readFrame.run s
    let (results, s) := reads rest s
    (result :: results, s)

/-- The bytes that arrive among some events. -/
def arrivals : List ReadingEvent → Bytes
  | [] => []
  | .arrival chunk :: rest => chunk.1 ++ arrivals rest
  | .read :: rest => arrivals rest

/-- The frames among the results of some reads. -/
def returned (results : List (Except Error Frame)) : List Frame :=
  results.filterMap Except.toOption

@[simp] lemma returned_nil : returned [] = [] :=
  rfl

@[simp] lemma returned_cons_ok (f : Frame) (results : List (Except Error Frame)) :
    returned (.ok f :: results) = f :: returned results :=
  rfl

@[simp] lemma returned_cons_error (e : Error) (results : List (Except Error Frame)) :
    returned (.error e :: results) = returned results :=
  rfl

lemma returned_cons (result : Except Error Frame) (results : List (Except Error Frame)) :
    returned (result :: results) = returned [result] ++ returned results := by
  cases result <;> simp

/-- A session over a script of chunks, before anything happened. -/
def overScript (chunks : List Chunk) : Session Script :=
  ⟨Script.ofChunks (chunks.map Subtype.val), .empty, defaultWait, true, .empty⟩

variable {s : Session Script}

/-! ## One event -/

/-- The arrival of bytes is felt at the end of what is unread. -/
lemma unread_push (s : Session Script) (chunk : Bytes) :
    unread { s with link := s.link.push chunk } = s.unread.receive chunk := by
  simp [unread, ReceiveBuffer.receive, Link.InOrder.coming, Script.push]

/-- A session can still read after the arrival of a chunk. -/
lemma CanRead.push (hs : s.CanRead) (chunk : Chunk) :
    CanRead { s with link := s.link.push chunk.1 } := by
  refine ⟨hs.connected, hs.isOpen.1, fun c hc => ?_⟩
  rcases List.mem_append.1 hc with hold | hnew
  · exact hs.isOpen.2 c hold
  · rw [List.mem_singleton.1 hnew]
    exact chunk.2

/-- A read brings the first frame that is awaited, and times out when there is none. -/
lemma readFrame_result (hs : s.CanRead) :
    (readFrame.run s).1 = match s.awaited with
      | [] => .error .timeout
      | f :: _ => .ok f := by
  obtain ⟨-, ⟨f, hf, hfirst⟩ | ⟨htimeout, -, hdry⟩⟩ := (afterWait_readFrame hs).awaits.awaited_cases
  · rw [hf, hfirst]
  · rw [htimeout, (hdry trivial).1]

/-! ## A whole run -/

/-- A session to which all of `bytes` has been sent, and which has returned `frames`. -/
structure HasReturned (s : Session Script) (bytes : Bytes) (frames : List Frame) : Prop where
  canRead : s.CanRead
  framesOf_eq : framesOf bytes = frames ++ s.awaited
  remainder_eq : remainder s.unread.bytes = remainder bytes

/-- One read keeps the conservation law. -/
lemma HasReturned.read {bytes : Bytes} {frames : List Frame} (h : s.HasReturned bytes frames) :
    (readFrame.run s).2.HasReturned bytes (frames ++ returned [(readFrame.run s).1]) := by
  have hwait := afterWait_readFrame h.canRead
  obtain ⟨hrest, hcases⟩ := hwait.awaits.awaited_cases
  refine ⟨hwait.canRead, ?_, hrest.trans h.remainder_eq⟩
  rw [h.framesOf_eq]
  obtain ⟨f, hf, hfirst⟩ | ⟨htimeout, hsame, -⟩ := hcases
  · simp [hfirst, hf]
  · simp [hsame, htimeout]

/-- An arrival keeps the conservation law. -/
lemma HasReturned.arrival {bytes : Bytes} {frames : List Frame} (h : s.HasReturned bytes frames)
    (chunk : Chunk) :
    HasReturned { s with link := s.link.push chunk.1 } (bytes ++ chunk.1) frames := by
  refine ⟨h.canRead.push chunk, ?_, ?_⟩
  · have hnew := framesOf_append s.unread.bytes chunk.1
    rw [h.remainder_eq] at hnew
    rw [awaited, unread_push, framesOf_append, h.framesOf_eq, List.append_assoc]
    exact congrArg (frames ++ ·) hnew.symm
  · have hnew := remainder_append s.unread.bytes chunk.1
    rw [h.remainder_eq, ← remainder_append] at hnew
    rwa [unread_push]

/-- A run of events keeps the conservation law. -/
lemma HasReturned.reads {bytes : Bytes} {frames : List Frame} (h : s.HasReturned bytes frames)
    (events : List ReadingEvent) :
    (reads events s).2.HasReturned (bytes ++ arrivals events)
      (frames ++ returned (Session.reads events s).1) := by
  induction events generalizing s bytes frames with
  | nil => simpa [Session.reads, arrivals, returned] using h
  | cons event events ih =>
    cases event with
    | arrival chunk =>
      simpa [Session.reads, arrivals] using ih (h.arrival chunk)
    | read =>
      have := ih h.read
      rw [List.append_assoc, ← returned_cons] at this
      exact this

/-- A fresh session has been sent its script and has returned nothing. -/
lemma hasReturned_overScript (chunks : List Chunk) :
    (overScript chunks).HasReturned (chunks.map Subtype.val).flatten [] := by
  refine ⟨⟨rfl, rfl, ?_⟩, rfl, rfl⟩
  intro chunk hchunk
  obtain ⟨c, -, rfl⟩ := List.mem_map.1 hchunk
  exact c.2

/-- **Framing does not depend on chunks or timeouts.** All bytes that arrived are split into lines,
and those of the lines that are not empty and that are frames are the frames to be returned.  What a
session over a script has returned, the timeouts left out, are the first of them.  The next read
returns the frame after these, and times out when there is none; then every frame has been returned,
the connection stays, and the buffer holds the bytes after the last line. -/
theorem readFrame_over_script (chunks : List Chunk) (events : List ReadingEvent) :
    ∃ fresh, start (Script.ofChunks (chunks.map Subtype.val)) = .ok fresh ∧
      let bytes := (chunks.map Subtype.val).flatten ++ arrivals events
      let (results, s) := reads events fresh
      let next := readFrame.run s
      ∃ lines rest, Splits bytes lines rest ∧
        let frames := (lines.filter (· ≠ [])).filterMap frameOf?
        returned results = frames.take (returned results).length ∧
        next.1 = (match frames[(returned results).length]? with
          | some f => .ok f
          | none => .error .timeout) ∧
        (next.1 = .error .timeout →
          returned results = frames ∧ next.2.connected = true ∧
          next.2.buffer.size = rest.length) := by
  refine ⟨overScript chunks, rfl, ?_⟩
  have h := (hasReturned_overScript chunks).reads events
  rw [List.nil_append] at h
  generalize (chunks.map Subtype.val).flatten ++ arrivals events = bytes at h ⊢
  revert h
  rcases reads events (overScript chunks) with ⟨results, s⟩
  intro (h : s.HasReturned bytes (returned results))
  have hnext := readFrame_result h.canRead
  have hwait := afterWait_readFrame h.canRead
  refine ⟨_, _, splits_splitLines bytes, ?_⟩
  intro frames
  have hframes : frames = returned results ++ s.awaited := h.framesOf_eq
  refine ⟨by simp [hframes], ?_, ?_⟩
  · rw [hnext, hframes]
    cases s.awaited <;> simp
  · intro htimeout
    obtain ⟨-, ⟨f, hf, -⟩ | ⟨-, -, hdry⟩⟩ := hwait.awaits.awaited_cases
    · simp [htimeout] at hf
    · obtain ⟨hnone, hbuffer⟩ := hdry trivial
      refine ⟨by simp [hframes, hnone], hwait.canRead.connected, ?_⟩
      rw [ReceiveBuffer.size, hbuffer, h.remainder_eq]
      rfl

end TimingBoard.Session
