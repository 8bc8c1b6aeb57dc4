import TimingBoard.Text.Bytes
import TimingBoard.Time.Span

/-!
# Links

A link carries bytes to a server and back. A read gives at most so many bytes as were asked for;
no bytes at all mean that the peer has closed the link. A write hands over all its bytes or fails.
Only the kind of a fault decides what a session makes of it; the text is for the message.

A reader goes on as long as reads bring bytes or are interrupted, so that a link also says how many
such reads are still ahead of it. Each of them brings the number down, and that is why waiting for a
reply comes to an end.

Bytes wait at the end of a link in the chunks they arrived in. A read takes from the first chunk
only, and what it leaves of the chunk is for the next read.
-/

namespace TimingBoard

/-! ## Faults -/

/-- The kinds of faults that are told apart. -/
inductive FaultKind where
  /-- Nothing arrived within the wait. -/
  | timedOut
  /-- Nothing is there without waiting. -/
  | wouldBlock
  /-- The operation was broken off and can be tried again. -/
  | interrupted
  /-- The peer has closed the link. -/
  | endOfStream
  /-- The link no longer takes bytes. -/
  | brokenPipe
  /-- The request to the link makes no sense. -/
  | invalidInput
  /-- Anything else. -/
  | other
  deriving DecidableEq

/-- A fault of a link. -/
structure LinkFault where
  kind : FaultKind
  message : Text
  deriving DecidableEq

/-- The fault that a session reports when a read finds the link closed. -/
def LinkFault.closedByPeer : LinkFault :=
  ⟨.endOfStream, "connection closed by server".toList⟩

/-! ## Links -/

/-- A way to carry bytes, with its own state. -/
class Link (L : Type) where
  /-- Reads at most a number of bytes. -/
  read : Nat → L → Except LinkFault Bytes × L
  /-- Writes bytes. -/
  write : Bytes → L → Except LinkFault Unit × L
  /-- Sends on what was written. -/
  flush : L → Except LinkFault Unit × L
  /-- Sets how long a read may wait for bytes. -/
  setWait : Span → L → Except LinkFault Unit × L
  /-- A bound on the reads ahead that bring bytes or are interrupted. -/
  pending : L → Nat
  /-- A read that brings bytes lowers the bound. -/
  pending_lt_of_bytes {size : Nat} {l l' : L} {chunk : Bytes} :
    0 < size → read size l = (.ok chunk, l') → chunk ≠ [] → pending l' < pending l
  /-- A read that is interrupted lowers the bound. -/
  pending_lt_of_interrupted {size : Nat} {l l' : L} {fault : LinkFault} :
    read size l = (.error fault, l') → fault.kind = .interrupted → pending l' < pending l

/-! ## Chunks -/

/-- Takes at most a number of bytes from the first chunk. -/
def takeChunk? (size : Nat) : List Bytes → Option (Bytes × List Bytes)
  | [] => none
  | chunk :: rest =>
    if chunk.length ≤ size then some (chunk, rest)
    else some (chunk.take size, chunk.drop size :: rest)

/-- The bytes that wait, and one more for each chunk. -/
def waiting : List Bytes → Nat
  | [] => 0
  | chunk :: rest => chunk.length + 1 + waiting rest

/-- Taking bytes leaves less to wait. -/
theorem waiting_lt_of_takeChunk? {size : Nat} {chunks rest : List Bytes} {chunk : Bytes}
    (hsize : 0 < size) (h : takeChunk? size chunks = some (chunk, rest)) :
    waiting rest < waiting chunks := by
  cases chunks with
  | nil => simp [takeChunk?] at h
  | cons first more =>
    simp only [takeChunk?] at h
    split at h
    · simp only [Option.some.injEq, Prod.mk.injEq] at h
      simp only [waiting, ← h.2]
      omega
    · simp only [Option.some.injEq, Prod.mk.injEq] at h
      simp only [waiting, ← h.2, List.length_drop]
      omega

end TimingBoard
