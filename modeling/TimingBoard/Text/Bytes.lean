import TimingBoard.Text.Basic

/-!
# Text as bytes

Commands leave the client in UTF-8. What comes back is read one byte at a time: the board speaks
ASCII, and a byte above it stands for the character of the same number, so that no reply can fail
to be read.

Bytes that are meant as UTF-8 but are not can be read leniently. Each longest start of a sequence
that cannot go on is then shown as one replacement character.
-/

namespace TimingBoard

/-- A sequence of bytes. -/
abbrev Bytes := List UInt8

namespace Text

/-- The text in UTF-8. -/
def toUtf8 (t : Text) : Bytes :=
  t.flatMap String.utf8EncodeChar

/-- The text that the bytes are the UTF-8 form of, if they are one. -/
def ofUtf8? (bytes : Bytes) : Option Text :=
  bytes.toByteArray.utf8Decode?.map Array.toList

/-- The text with one character per byte, of the same number. -/
def ofLatin1 (bytes : Bytes) : Text :=
  bytes.map fun b => Char.ofNat b.toNat

/-- The character shown for bytes that stand for none. -/
def replacement : Char := '\ufffd'

/-- The number of bytes that follow the first byte of a UTF-8 sequence, the least and the greatest
byte that may come second, and the part of the code point that the first byte holds. -/
def sequenceShape (first : UInt8) : Option (Nat × UInt8 × UInt8 × Nat) :=
  if first < 0x80 then some (0, 0, 0, first.toNat)
  else if first < 0xC2 then none
  else if first < 0xE0 then some (1, 0x80, 0xBF, first.toNat - 0xC0)
  else if first < 0xF0 then
    some (2, if first = 0xE0 then 0xA0 else 0x80, if first = 0xED then 0x9F else 0xBF,
      first.toNat - 0xE0)
  else if first < 0xF5 then
    some (3, if first = 0xF0 then 0x90 else 0x80, if first = 0xF4 then 0x8F else 0xBF,
      first.toNat - 0xF0)
  else none

/-- Reads the `more` bytes that complete a sequence, of which the next lies between `least` and
`greatest` and the others between 0x80 and 0xBF. Gives the character, or the replacement when the
sequence stops short, and the bytes after it. -/
def completeSequence (more : Nat) (least greatest : UInt8) (code : Nat) (bytes : Bytes) :
    Char × Bytes :=
  match more, bytes with
  | 0, rest => (Char.ofNat code, rest)
  | _ + 1, [] => (replacement, [])
  | k + 1, b :: rest =>
    if least ≤ b ∧ b ≤ greatest then
      completeSequence k 0x80 0xBF (code * 64 + (b.toNat - 0x80)) rest
    else (replacement, b :: rest)

/-- Completing a sequence never gives bytes back. -/
theorem length_completeSequence_le (more : Nat) (least greatest : UInt8) (code : Nat)
    (bytes : Bytes) :
    (completeSequence more least greatest code bytes).2.length ≤ bytes.length := by
  induction more generalizing least greatest code bytes with
  | zero => cases bytes <;> simp [completeSequence]
  | succ k ih =>
    cases bytes with
    | nil => simp [completeSequence]
    | cons b rest =>
      unfold completeSequence
      split
      · exact Nat.le_succ_of_le (ih ..)
      · simp

/-- The text of the bytes read as UTF-8, with a replacement character for each part that is
malformed. -/
def ofUtf8Lossy (bytes : Bytes) : Text :=
  match bytes with
  | [] => []
  | first :: rest =>
    match sequenceShape first with
    | none => replacement :: ofUtf8Lossy rest
    | some (more, least, greatest, code) =>
      (completeSequence more least greatest code rest).1 ::
        ofUtf8Lossy (completeSequence more least greatest code rest).2
termination_by bytes.length
decreasing_by
  · simp
  · exact Nat.lt_succ_of_le (length_completeSequence_le ..)

end Text

end TimingBoard
