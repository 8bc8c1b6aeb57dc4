import TimingBoard.Proofs.Frame.Wire
import TimingBoard.Proofs.Link.InOrder
import TimingBoard.Proofs.Request.Line

/-!
# A device that answers late

A device answers every line that it hears, in order, each with some frames.  Its answers are on the
way for any time: whether bytes have arrived is settled anew at each read, and a read that finds
none gives up.  So an answer may arrive after the client has stopped waiting for it.  But nothing is
lost, and the order of bytes is kept.
-/

namespace TimingBoard

/-- A link to a device that may answer late. -/
structure LateLink where
  /-- The answer to the last of some lines. -/
  answer : List Text → List Frame
  /-- The lines that the device has heard. -/
  heard : List Text
  /-- The start of a line that the device has not seen the end of. -/
  unfinished : Bytes
  /-- Pieces of answers that the client has not read, whether they have arrived or not. -/
  onTheWay : List Bytes
  /-- How the answers to come are cut, counted from now on. -/
  cutting : Nat → Cutting
  /-- Whether the next piece has arrived, at each read to come. -/
  arrived : Nat → Bool

namespace LateLink

/-- A link to a device that has heard nothing. -/
def fresh (answer : List Text → List Frame) (cutting : Nat → Cutting) (arrived : Nat → Bool) :
    LateLink :=
  ⟨answer, [], [], [], cutting, arrived⟩

/-- The device hears a line, and its answer is on the way. -/
def hear (line : Bytes) (l : LateLink) : LateLink :=
  match Text.ofUtf8? line with
  | none => l
  | some text =>
    { l with
      heard := l.heard ++ [text]
      onTheWay := l.onTheWay ++ (l.cutting 0).pieces
        ((l.answer (l.heard ++ [text])).flatMap Frame.wire)
      cutting := fun n => l.cutting (n + 1) }

/-- The device takes a byte. A line feed ends a line. -/
def take (byte : UInt8) (l : LateLink) : LateLink :=
  if byte = lineFeed then { l.hear l.unfinished with unfinished := [] }
  else { l with unfinished := l.unfinished ++ [byte] }

/-- The device takes bytes. -/
def write (bytes : Bytes) (l : LateLink) : Except LinkFault Unit × LateLink :=
  (.ok (), bytes.foldl (fun l byte => l.take byte) l)

/-- Reads from the next piece, if it has arrived. -/
def read (size : Nat) (l : LateLink) : Except LinkFault Bytes × LateLink :=
  let later := { l with arrived := fun n => l.arrived (n + 1) }
  match takeChunk? size l.onTheWay with
  | some (chunk, rest) =>
    if l.arrived 0 then (.ok chunk, { later with onTheWay := rest })
    else (.error Script.exhausted, later)
  | none => (.error Script.exhausted, later)

variable {l l' : LateLink} {size : Nat} {result : Except LinkFault Bytes}

/-- A read takes from the first piece, or gives up and takes nothing. -/
lemma read_cases (h : l.read size = (result, l')) :
    (∃ chunk rest, takeChunk? size l.onTheWay = some (chunk, rest) ∧ result = .ok chunk ∧
      l' = { l with onTheWay := rest, arrived := fun n => l.arrived (n + 1) }) ∨
    (result = .error Script.exhausted ∧ l' = { l with arrived := fun n => l.arrived (n + 1) }) := by
  unfold read at h
  simp only at h
  split at h
  · next chunk rest htake =>
    split at h
    · simp only [Prod.mk.injEq] at h
      exact Or.inl ⟨chunk, rest, htake, h.1.symm, h.2.symm⟩
    · simp only [Prod.mk.injEq] at h
      exact Or.inr ⟨h.1.symm, h.2.symm⟩
  · simp only [Prod.mk.injEq] at h
    exact Or.inr ⟨h.1.symm, h.2.symm⟩

instance : Link LateLink where
  read := read
  write := write
  flush l := (.ok (), l)
  setWait _ l := (.ok (), l)
  pending l := waiting l.onTheWay
  pending_lt_of_bytes hsize h _ := by
    obtain ⟨chunk, rest, htake, -, rfl⟩ | ⟨hresult, -⟩ := read_cases h
    · exact waiting_lt_of_takeChunk? hsize htake
    · simp at hresult
  pending_lt_of_interrupted h hkind := by
    obtain ⟨chunk, rest, -, hresult, -⟩ | ⟨hresult, -⟩ := read_cases h
    · simp at hresult
    · obtain rfl := Except.error.inj hresult
      simp [Script.exhausted] at hkind

instance : Link.InOrder LateLink where
  isOpen l := ∀ piece ∈ l.onTheWay, piece ≠ []
  coming l := l.onTheWay.flatten
  withoutBytes l := { l with onTheWay := [], arrived := fun _ => false }
  isPrompt := False
  takesFrom_of_read hopen hsize h := by
    obtain ⟨chunk, rest, htake, rfl, rfl⟩ | ⟨rfl, rfl⟩ := read_cases h
    · exact .bytes (ne_nil_of_takeChunk? hsize hopen htake) (flatten_of_takeChunk? htake)
    · exact .nothing (Or.inl rfl) rfl
  isOpen_of_read hopen h := by
    obtain ⟨chunk, rest, htake, -, rfl⟩ | ⟨-, rfl⟩ := read_cases h
    · exact forall_ne_nil_of_takeChunk? hopen htake
    · exact hopen
  withoutBytes_of_read _ h := by
    obtain ⟨chunk, rest, -, -, rfl⟩ | ⟨-, rfl⟩ := read_cases h <;> rfl
  coming_of_prompt hprompt := hprompt.elim

/-- What a device has heard, and how it answers, does not depend on the bytes on the way. -/
lemma eq_of_withoutBytes_eq (h : Link.InOrder.withoutBytes l = Link.InOrder.withoutBytes l') :
    l.answer = l'.answer ∧ l.heard = l'.heard ∧ l.unfinished = l'.unfinished := by
  have hfields := LateLink.mk.inj h
  exact ⟨hfields.1, hfields.2.1, hfields.2.2.1⟩

/-! ## Writing commands -/

/-- Bytes without a line feed are the start of a line. -/
lemma foldl_take {bytes : Bytes} (h : lineFeed ∉ bytes) (l : LateLink) :
    bytes.foldl (fun l byte => l.take byte) l = { l with unfinished := l.unfinished ++ bytes } := by
  induction bytes generalizing l with
  | nil => simp
  | cons byte bytes ih =>
    have hbyte : byte ≠ lineFeed := fun heq => h (by simp [heq])
    have hbytes : lineFeed ∉ bytes := fun hmem => h (by simp [hmem])
    rw [List.foldl_cons, ih hbytes, take, if_neg hbyte]
    simp

/-- A command that is written reaches the device as its line, and its answer is on the way. -/
lemma write_encode (h : l.unfinished = []) (command : Command) :
    l.write command.encode = (.ok (), { l with
      heard := l.heard ++ [command.line]
      onTheWay := l.onTheWay ++ (l.cutting 0).pieces
        ((l.answer (l.heard ++ [command.line])).flatMap Frame.wire)
      cutting := fun n => l.cutting (n + 1) }) := by
  have hline : lineFeed ∉ Text.toUtf8 command.line := command.isOneLine_line.lineFeed_notMem
  have hencode : command.encode = Text.toUtf8 command.line ++ [lineFeed] := command.encode_eq
  obtain ⟨answer, heard, unfinished, onTheWay, cutting, arrived⟩ := l
  obtain rfl : unfinished = [] := h
  rw [write, hencode, List.foldl_append, foldl_take hline]
  simp only [List.nil_append, List.foldl_cons, List.foldl_nil, take, if_true, hear,
    Text.ofUtf8?_toUtf8]

end LateLink

end TimingBoard
