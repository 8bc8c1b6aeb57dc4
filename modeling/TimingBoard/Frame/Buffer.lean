import TimingBoard.Frame.Basic
import TimingBoard.Text.Bytes

/-!
# The receive buffer

The server ends every line with a carriage return and a line feed. Bytes arrive in pieces of any
size, so they are collected in a buffer, and lines are taken from its front as soon as they are
complete. Neither of the two characters ends a line by itself. Empty lines and lines that are not
frames are passed over, and the incomplete rest stays for the next piece.
-/

namespace TimingBoard

/-- A carriage return. -/
def carriageReturn : UInt8 := 0x0D

/-- A line feed. -/
def lineFeed : UInt8 := 0x0A

/-- The first line of some bytes without its end, and the bytes after it. -/
def cutLine? : Bytes → Option (Bytes × Bytes)
  | [] => none
  | b :: rest =>
    if b = carriageReturn ∧ rest.head? = some lineFeed then some ([], rest.tail)
    else (cutLine? rest).map fun (line, after) => (b :: line, after)

/-- A line and its end take up all that was cut off. -/
theorem append_of_cutLine? {bytes line after : Bytes} (h : cutLine? bytes = some (line, after)) :
    bytes = line ++ carriageReturn :: lineFeed :: after := by
  induction bytes generalizing line after with
  | nil => simp [cutLine?] at h
  | cons b rest ih =>
    simp only [cutLine?] at h
    split at h
    · next hb =>
      obtain ⟨hb, hhead⟩ := hb
      cases rest with
      | nil => simp at hhead
      | cons c more =>
        simp only [List.head?_cons, Option.some.injEq] at hhead
        simp only [List.tail_cons, Option.some.injEq, Prod.mk.injEq] at h
        obtain ⟨rfl, rfl⟩ := h
        simp [hb, hhead]
    · obtain ⟨⟨line', after'⟩, hcut, heq⟩ := Option.map_eq_some_iff.1 h
      simp only [Prod.mk.injEq] at heq
      obtain ⟨rfl, rfl⟩ := heq
      simp [ih hcut]

/-- Cutting off a line leaves fewer bytes. -/
theorem length_lt_of_cutLine? {bytes line after : Bytes}
    (h : cutLine? bytes = some (line, after)) : after.length < bytes.length := by
  rw [append_of_cutLine? h]
  simp
  omega

/-- The lines of some bytes, empty ones included, and the incomplete rest. -/
def splitLines (bytes : Bytes) : List Bytes × Bytes :=
  match _h : cutLine? bytes with
  | none => ([], bytes)
  | some (line, after) => (line :: (splitLines after).1, (splitLines after).2)
termination_by bytes.length
decreasing_by all_goals exact length_lt_of_cutLine? _h

/-- Bytes received and not yet taken. -/
structure ReceiveBuffer where
  bytes : Bytes
  deriving DecidableEq

namespace ReceiveBuffer

/-- Nothing received. -/
def empty : ReceiveBuffer := ⟨[]⟩

/-- The number of bytes in the buffer. -/
def size (b : ReceiveBuffer) : Nat :=
  b.bytes.length

/-- The buffer with more bytes received. -/
def receive (b : ReceiveBuffer) (more : Bytes) : ReceiveBuffer :=
  ⟨b.bytes ++ more⟩

/-- Takes the next line that is not empty. Empty lines before it are gone even when no other line
is complete. -/
def nextLine (b : ReceiveBuffer) : Option Text × ReceiveBuffer :=
  match _h : cutLine? b.bytes with
  | none => (none, b)
  | some ([], after) => nextLine ⟨after⟩
  | some (line, after) => (some (Text.ofLatin1 line), ⟨after⟩)
termination_by b.bytes.length
decreasing_by exact length_lt_of_cutLine? _h

/-- Taking a line leaves fewer bytes. -/
theorem size_lt_of_nextLine {b after : ReceiveBuffer} {line : Text}
    (h : b.nextLine = (some line, after)) : after.size < b.size := by
  fun_induction nextLine b with
  | case1 => simp at h
  | case2 b rest hcut ih => exact Nat.lt_trans (ih h) (length_lt_of_cutLine? hcut)
  | case3 b line' rest _ hcut =>
    simp only [Prod.mk.injEq] at h
    rw [← h.2]
    exact length_lt_of_cutLine? hcut

/-- Takes the next line that is a frame. Lines before it that are not frames are gone even when no
frame is complete. -/
def nextFrame (b : ReceiveBuffer) : Option Frame × ReceiveBuffer :=
  match _h : b.nextLine with
  | (none, after) => (none, after)
  | (some line, after) =>
    match Frame.classify? line with
    | some f => (some f, after)
    | none => nextFrame after
termination_by b.size
decreasing_by exact size_lt_of_nextLine _h

end ReceiveBuffer

end TimingBoard
