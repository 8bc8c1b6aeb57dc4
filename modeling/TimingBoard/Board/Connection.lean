import TimingBoard.Board.Basic
import TimingBoard.Link.Basic

/-!
# A connection to the simulated board

The link between a client and a simulated board. What the client writes reaches the board line by
line, and the answer to a line is there at once, in pieces that a network may cut as it likes. A
read that finds nothing gives up without waiting.
-/

namespace TimingBoard

/-- A way to cut an answer into pieces. The pieces are not empty and make up the answer. -/
structure Cutting where
  pieces : Bytes → List Bytes
  flatten_pieces (bytes : Bytes) : (pieces bytes).flatten = bytes
  ne_nil_of_mem (bytes : Bytes) {piece : Bytes} : piece ∈ pieces bytes → piece ≠ []

/-- Leaves every answer in one piece. -/
def Cutting.whole : Cutting where
  pieces bytes := if bytes = [] then [] else [bytes]
  flatten_pieces bytes := by by_cases h : bytes = [] <;> simp [h]
  ne_nil_of_mem bytes piece h := by
    by_cases hb : bytes = []
    · simp [hb] at h
    · simp only [hb, if_false, List.mem_singleton] at h
      exact h ▸ hb

/-- A connection to a simulated board. -/
structure Connection where
  board : Board
  /-- What the clock of the board shows at each line to come, counted from now on. -/
  clock : Nat → Instant
  /-- The start of a line that the board has not seen the end of. -/
  unfinished : Bytes
  /-- Pieces of answers that the client has not read. -/
  arriving : List Bytes
  /-- How the answers to come are cut, counted from now on. -/
  cutting : Nat → Cutting

namespace Connection

/-- A fresh connection to a board whose clock stands still. -/
def toBoard (board : Board) (now : Instant) : Connection :=
  ⟨board, fun _ => now, [], [], fun _ => .whole⟩

/-- The moment at which the next line is answered. -/
def now (c : Connection) : Instant := c.clock 0

/-- The fault of a read that finds nothing. -/
def nothingThere : LinkFault :=
  ⟨.wouldBlock, "Resource temporarily unavailable (os error 11)".toList⟩

/-- The fault of a wait of no time. -/
def emptyWait : LinkFault :=
  ⟨.invalidInput, "cannot set a 0 duration timeout".toList⟩

/-- Hands a line to the board and queues its answer. A line that is not UTF-8 is lost. -/
def deliver (line : Bytes) (c : Connection) : Connection :=
  match Text.ofUtf8? line with
  | none => c
  | some arrived =>
    let (answer, board) := c.board.serve c.now arrived
    { c with
      board := board
      clock := fun n => c.clock (n + 1)
      arriving := c.arriving ++ (c.cutting 0).pieces (Text.toUtf8 answer)
      cutting := fun n => c.cutting (n + 1) }

/-- Takes a byte from the client. A line feed ends a line. -/
def take (byte : UInt8) (c : Connection) : Connection :=
  if byte = 0x0A then { c.deliver c.unfinished with unfinished := [] }
  else { c with unfinished := c.unfinished ++ [byte] }

/-- Takes bytes from the client. -/
def write (bytes : Bytes) (c : Connection) : Except LinkFault Unit × Connection :=
  (.ok (), bytes.foldl (fun c byte => c.take byte) c)

/-- Reads from the first piece that has arrived. -/
def read (size : Nat) (c : Connection) : Except LinkFault Bytes × Connection :=
  match takeChunk? size c.arriving with
  | some (chunk, rest) => (.ok chunk, { c with arriving := rest })
  | none => (.error nothingThere, c)

/-- A wait must be longer than nothing. -/
def setWait (wait : Span) (c : Connection) : Except LinkFault Unit × Connection :=
  (if wait.nanos = 0 then .error emptyWait else .ok (), c)

instance : Link Connection where
  read := read
  write := write
  flush c := (.ok (), c)
  setWait := setWait
  pending c := waiting c.arriving
  pending_lt_of_bytes hsize h _ := by
    unfold read at h
    split at h
    · next taken rest htake =>
      simp only [Prod.mk.injEq, Except.ok.injEq] at h
      rw [← h.2]
      exact waiting_lt_of_takeChunk? hsize htake
    · simp at h
  pending_lt_of_interrupted h hkind := by
    unfold read at h
    split at h
    · simp at h
    · simp only [Prod.mk.injEq, Except.error.injEq] at h
      simp [← h.1, nothingThere] at hkind

end Connection

end TimingBoard
