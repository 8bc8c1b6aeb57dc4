import TimingBoard.Proofs.Request.Line

/-!
# Commands one after the other

What is sent for some commands is the bytes of one after the other.  Each of them is one line, in
which neither a line feed nor a carriage return comes before the line feed that ends it.  So whoever
cuts the bytes at the line feeds has the lines that were sent, and reads the same commands from them
in the same order.  No text that a command was made of can add a command to them or take one away.
-/

namespace TimingBoard

/-- A stream of bytes that is made of lines: each of them ends in a line feed, and holds no other
line feed and no carriage return. -/
def IsLines (stream : Bytes) : Prop :=
  ∃ lines : List Bytes, stream = lines.flatMap (· ++ [0x0A]) ∧
    ∀ line ∈ lines, 0x0A ∉ line ∧ 0x0D ∉ line

namespace Command

/-- Reads a command from the bytes of its line. -/
def readLine? (line : Bytes) : Option Command :=
  (Text.ofUtf8? line).bind fun typed => (read typed).toOption

/-- Reads commands from a stream of bytes, each of whose lines is ended by a line feed. -/
def readAll? (stream : Bytes) : Option (List Command) :=
  let pieces := stream.splitOn 0x0A
  if pieces.getLast? = some [] then pieces.dropLast.mapM readLine? else none

/-- What is sent for commands is made of their lines. -/
lemma isLines_flatMap_encode (commands : List Command) : IsLines (commands.flatMap encode) := by
  refine ⟨commands.map fun c => Text.toUtf8 c.line, ?_, fun line hline => ?_⟩
  · rw [List.flatMap_map, funext encode_eq]
  · obtain ⟨c, -, rfl⟩ := List.mem_map.1 hline
    exact ⟨c.isOneLine_line.lineFeed_notMem, c.isOneLine_line.carriageReturn_notMem⟩

lemma readLine?_line (c : Command) : readLine? (Text.toUtf8 c.line) = some c := by
  simp [readLine?, c.read_line, Except.toOption]

/-- Commands that are sent one after the other are cut into their lines at the line feeds, with
nothing after the last one. -/
lemma splitOn_flatMap_encode (commands : List Command) :
    (commands.flatMap encode).splitOn 0x0A =
      commands.map (fun c => Text.toUtf8 c.line) ++ [[]] := by
  induction commands with
  | nil => rfl
  | cons c rest ih =>
    have hstream : (c :: rest).flatMap encode =
        Text.toUtf8 c.line ++ 0x0A :: rest.flatMap encode := by
      rw [List.flatMap_cons, c.encode_eq, List.append_assoc]
      rfl
    rw [hstream, List.splitOn_append_cons_self_of_not_mem c.isOneLine_line.lineFeed_notMem, ih]
    rfl

/-- Commands that are sent one after the other are read as the same commands. -/
theorem readAll?_flatMap_encode (commands : List Command) :
    readAll? (commands.flatMap encode) = some commands := by
  have hlines : (commands.map fun c => Text.toUtf8 c.line).mapM readLine? = some commands := by
    induction commands with
    | nil => rfl
    | cons c rest ih => simp [readLine?_line, ih]
  simp only [readAll?, splitOn_flatMap_encode, List.getLast?_concat, List.dropLast_concat, if_true,
    hlines]

end Command

end TimingBoard
