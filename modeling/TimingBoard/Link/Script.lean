import TimingBoard.Link.Basic

/-!
# Scripted links

A link without a server behind it: the chunks that reads will find are given beforehand, and all
that is written is kept. When no chunk is left, reads time out, or find the link closed if the
script says so. A script can also refuse every write.
-/

namespace TimingBoard

/-- A scripted link. -/
structure Script where
  chunks : List Bytes
  /-- Whether the link is closed after the last chunk. -/
  closing : Bool
  /-- Whether writes fail. -/
  failing : Bool
  written : Bytes
  deriving DecidableEq

namespace Script

/-- A script of chunks. -/
def ofChunks (chunks : List Bytes) : Script := ⟨chunks, false, false, []⟩

/-- The fault of a read that finds nothing. -/
def exhausted : LinkFault := ⟨.timedOut, "script exhausted".toList⟩

/-- The fault of a write that is refused. -/
def brokenWrite : LinkFault := ⟨.brokenPipe, "scripted write failure".toList⟩

/-- Adds a chunk for a later read. -/
def push (s : Script) (chunk : Bytes) : Script :=
  { s with chunks := s.chunks ++ [chunk] }

/-- Reads from the first chunk. -/
def read (size : Nat) (s : Script) : Except LinkFault Bytes × Script :=
  match takeChunk? size s.chunks with
  | some (chunk, rest) => (.ok chunk, { s with chunks := rest })
  | none => (if s.closing then .ok [] else .error exhausted, s)

/-- Writes all bytes. -/
def write (bytes : Bytes) (s : Script) : Except LinkFault Unit × Script :=
  if s.failing then (.error brokenWrite, s)
  else (.ok (), { s with written := s.written ++ bytes })

/-- The lines that were written. -/
def writtenLines (s : Script) : List Text :=
  Text.lines (Text.ofUtf8Lossy s.written)

/-- A read that brings bytes leaves less to wait. -/
theorem waiting_lt_of_read {size : Nat} {s s' : Script} {chunk : Bytes} (hsize : 0 < size)
    (h : s.read size = (.ok chunk, s')) (hchunk : chunk ≠ []) :
    waiting s'.chunks < waiting s.chunks := by
  unfold read at h
  split at h
  · next taken rest htake =>
    simp only [Prod.mk.injEq, Except.ok.injEq] at h
    rw [← h.2]
    exact waiting_lt_of_takeChunk? hsize htake
  · split at h <;> simp_all

/-- No read of a script is interrupted. -/
theorem not_interrupted_of_read {size : Nat} {s s' : Script} {fault : LinkFault}
    (h : s.read size = (.error fault, s')) : fault.kind ≠ .interrupted := by
  unfold read at h
  split at h
  · simp at h
  · split at h
    · simp at h
    · simp only [Prod.mk.injEq, Except.error.injEq] at h
      simp [← h.1, exhausted]

instance : Link Script where
  read := read
  write := write
  flush s := (.ok (), s)
  setWait _ s := (.ok (), s)
  pending s := waiting s.chunks
  pending_lt_of_bytes := waiting_lt_of_read
  pending_lt_of_interrupted h hkind := absurd hkind (not_interrupted_of_read h)

end Script

end TimingBoard
