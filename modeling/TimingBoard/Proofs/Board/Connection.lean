import TimingBoard.Board.Connection
import TimingBoard.Proofs.Board.Answer

/-!
# Commands on their way to the board

The bytes of a command that is written reach the board as one line, the line of the command, since
there is no line feed in them but the last one.  The board handles it, and what it says is queued.
-/

namespace TimingBoard

namespace Board

/-- What a board sends for frames; a mute one sends nothing. -/
def said (b : Board) (frames : List Frame) : Text :=
  if b.mute then [] else transcript b.noisy frames

/-- A board serves the line of a command as it handles it. -/
lemma serve_line (now : Instant) (command : Command) (b : Board) :
    b.serve now command.line =
      ((b.handle now command.line).2.said (b.handle now command.line).1,
        (b.handle now command.line).2) := by
  rw [serve, command.trimEnd_line]
  simp only [command.line_ne_nil, if_false]
  rfl

end Board

namespace Connection

/-- The connection once the board has taken the line of a command and its answer is queued. -/
def handed (command : Command) (c : Connection) : Connection :=
  let (frames, board) := c.board.handle c.now command.line
  { c with
    board := board
    clock := fun n => c.clock (n + 1)
    arriving := c.arriving ++ (c.cutting 0).pieces (Text.toUtf8 (board.said frames))
    cutting := fun n => c.cutting (n + 1) }

/-- Bytes without a line feed are the start of a line. -/
lemma foldl_take {bytes : Bytes} (h : (0x0A : UInt8) ∉ bytes) (c : Connection) :
    bytes.foldl (fun c byte => c.take byte) c = { c with unfinished := c.unfinished ++ bytes } := by
  induction bytes generalizing c with
  | nil => simp
  | cons byte bytes ih =>
    have hbyte : byte ≠ 0x0A := fun heq => h (by simp [heq])
    have hbytes : (0x0A : UInt8) ∉ bytes := fun hmem => h (by simp [hmem])
    rw [List.foldl_cons, ih hbytes, take, if_neg hbyte]
    simp

/-- A command that is written reaches the board as its line. -/
lemma write_encode {c : Connection} (h : c.unfinished = []) (command : Command) :
    c.write command.encode = (.ok (), c.handed command) := by
  have hline := command.isOneLine_line.lineFeed_notMem
  obtain ⟨board, clock, unfinished, arriving, cutting⟩ := c
  obtain rfl : unfinished = [] := h
  rw [write, command.encode_eq, List.foldl_append, foldl_take hline]
  simp only [List.nil_append, List.foldl_cons, List.foldl_nil, take, if_true, deliver,
    Text.ofUtf8?_toUtf8, now, Board.serve_line]
  rfl

end Connection

end TimingBoard
