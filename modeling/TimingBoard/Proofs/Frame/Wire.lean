import TimingBoard.Board.Basic
import TimingBoard.Proofs.Frame.Lines
import TimingBoard.Proofs.Text.Encoding

/-!
# Frames on the wire

A frame is sent as one line.  When no end of a line breaks its payload, a receive buffer takes
exactly that line for the frame and leaves what follows it, whatever follows.  The payload is read
one byte at a time, so that it comes back in its received form.  The line that a noisy board sends
before an answer is no frame, and the buffer passes over it.
-/

namespace TimingBoard

/-- The bytes of a frame that is sent. -/
def Frame.wire (f : Frame) : Bytes :=
  Text.toUtf8 (f.text ++ Board.lineEnd)

/-- A frame as it is read on the other side. -/
def Frame.received (f : Frame) : Frame :=
  ⟨f.tag, Text.received f.payload⟩

namespace Frame

variable {f : Frame}

@[simp] lemma received_tag (f : Frame) : f.received.tag = f.tag := rfl

@[simp] lemma received_payload (f : Frame) : f.received.payload = Text.received f.payload := rfl

lemma Tag.isAscii_word (tag : Tag) : Text.IsAscii tag.word := by
  cases tag <;> decide

/-- A line that starts with the word of a tag and a space is a frame of that tag. -/
lemma classify?_word_append (tag : Tag) (payload : Text) :
    classify? (tag.word ++ ' ' :: payload) = some ⟨tag, payload⟩ := by
  have htake : (tag.word ++ ' ' :: payload).take 3 = tag.word := by cases tag <;> rfl
  have hdrop : (tag.word ++ ' ' :: payload).drop 3 = ' ' :: payload := by cases tag <;> rfl
  have hspace : Char.utf8Size ' ' = 1 := by decide
  simp [classify?, htake, hdrop, payloadOf, hspace]

/-- The word of a tag alone is a frame without payload. -/
lemma classify?_word (tag : Tag) : classify? tag.word = some ⟨tag, []⟩ := by
  cases tag <;> decide

/-- The line of a frame is read as the received frame. -/
lemma classify?_received_text (f : Frame) : classify? (Text.received f.text) = some f.received := by
  unfold text
  split
  · next hempty =>
    rw [(Tag.isAscii_word f.tag).received_eq, classify?_word, received, hempty, Text.received_nil]
  · rw [Text.received_append, (Tag.isAscii_word f.tag).received_eq,
      Text.received_cons_of_ascii (by decide), classify?_word_append, received]

/-- A frame with an unbroken payload is one line. -/
lemma isUnbroken_text (h : Text.IsUnbroken f.payload) : Text.IsUnbroken f.text := by
  have hword : Text.IsOneLine f.tag.word := by cases f.tag <;> decide
  unfold text
  split
  · exact hword.isUnbroken
  · exact hword.isUnbroken.append h

lemma text_ne_nil (f : Frame) : f.text ≠ [] := by
  have hword : f.tag.word ≠ [] := by cases f.tag <;> decide
  unfold text
  split <;> simp [hword]

end Frame

namespace Text

/-- The bytes that end a line. -/
lemma toUtf8_lineEnd : toUtf8 Board.lineEnd = [carriageReturn, lineFeed] := by
  decide

/-- A text with a character has a byte. -/
lemma toUtf8_ne_nil {t : Text} (h : t ≠ []) : toUtf8 t ≠ [] := by
  intro hnil
  have hdecoded := ofUtf8?_toUtf8 t
  rw [hnil] at hdecoded
  exact h (Option.some.inj (hdecoded.symm.trans (ofUtf8?_toUtf8 [])))

/-- The UTF-8 form of a text begins with a line feed only if the text does. -/
lemma head?_toUtf8_ne_lineFeed {t : Text} (h : t.head? ≠ some '\n') :
    (toUtf8 t).head? ≠ some lineFeed := by
  cases t with
  | nil => simp
  | cons c t =>
    obtain ⟨b, rest, hbytes⟩ := List.exists_cons_of_ne_nil (String.utf8EncodeChar_ne_nil (c := c))
    rw [toUtf8_cons, hbytes]
    intro hhead
    obtain rfl : b = lineFeed := by simpa using hhead
    have hmem : lineFeed ∈ toUtf8 [c] := by simp [hbytes]
    obtain ⟨d, hd, hval⟩ := mem_of_mem_toUtf8 hmem (by decide)
    obtain rfl : d = c := List.mem_singleton.1 hd
    exact h (congrArg some (Char.toNat_inj.1 hval))

/-- The line of an unbroken text is cut off as it was sent. -/
lemma IsUnbroken.cutLine? {t : Text} (h : IsUnbroken t) (rest : Bytes) :
    cutLine? (toUtf8 (t ++ Board.lineEnd) ++ rest) = some (toUtf8 t, rest) := by
  rw [toUtf8_append, toUtf8_lineEnd, List.append_assoc]
  change TimingBoard.cutLine? (toUtf8 t ++ carriageReturn :: lineFeed :: rest) =
    some (toUtf8 t, rest)
  induction t with
  | nil => simp [TimingBoard.cutLine?]
  | cons c t ih =>
    obtain ⟨hend, hrest⟩ := isUnbroken_cons.1 h
    rw [toUtf8_cons, List.append_assoc]
    by_cases hc : c = '\r'
    · -- A line feed after the carriage return would end the line here.
      have hhead : (toUtf8 t ++ carriageReturn :: lineFeed :: rest).head? ≠ some lineFeed := by
        rw [List.head?_append]
        cases hfirst : (toUtf8 t).head? with
        | none => simp [carriageReturn, lineFeed]
        | some b =>
          rw [Option.some_or, ← hfirst]
          exact head?_toUtf8_ne_lineFeed (hend hc)
      have hbyte : String.utf8EncodeChar c = [carriageReturn] := by
        rw [hc]
        decide
      rw [hbyte, List.singleton_append, TimingBoard.cutLine?, if_neg fun hboth => hhead hboth.2,
        ih hrest]
      rfl
    · refine cutLine?_append_left (fun hmem => ?_) (ih hrest)
      have hmem' : carriageReturn ∈ toUtf8 [c] := by simpa [toUtf8] using hmem
      obtain ⟨d, hd, hval⟩ := mem_of_mem_toUtf8 hmem' (by decide)
      obtain rfl : d = c := List.mem_singleton.1 hd
      exact hc (Char.toNat_inj.1 hval)

end Text

namespace ReceiveBuffer

/-- A sent frame is taken from the buffer, and what follows it is left. -/
lemma nextFrame_wire {f : Frame} (h : Text.IsUnbroken f.payload) (rest : Bytes) :
    nextFrame ⟨f.wire ++ rest⟩ = (some f.received, ⟨rest⟩) := by
  have hcut := (Frame.isUnbroken_text h).cutLine? rest
  have hline := nextLine_of_some (b := ⟨f.wire ++ rest⟩) hcut (Text.toUtf8_ne_nil f.text_ne_nil)
  exact nextFrame_of_frame hline (Frame.classify?_received_text f)

/-- The frames of the bytes of sent frames are these frames, and no bytes are left over. -/
lemma framesOf_wire {sent : List Frame} (h : ∀ f ∈ sent, Text.IsUnbroken f.payload) :
    framesOf (sent.flatMap Frame.wire) = sent.map Frame.received ∧
      remainder (sent.flatMap Frame.wire) = [] := by
  induction sent with
  | nil => simp
  | cons f sent ih =>
    obtain ⟨hframes, hrest⟩ := ih fun g hg => h g (by simp [hg])
    obtain ⟨hfirst, hremainder⟩ := nextFrame_eq_some
      (nextFrame_wire (h f (by simp)) (sent.flatMap Frame.wire))
    rw [List.flatMap_cons, List.map_cons, hfirst, ← hremainder]
    exact ⟨congrArg _ hframes, hrest⟩

/-- A line that is no frame is passed over. -/
lemma nextFrame_of_remark {remark : Text} (h : Text.IsOneLine remark) (hne : remark ≠ [])
    (hnone : Frame.classify? (Text.received remark) = none) (rest : Bytes) :
    nextFrame ⟨Text.toUtf8 (remark ++ Board.lineEnd) ++ rest⟩ = nextFrame ⟨rest⟩ :=
  nextFrame_of_noise (nextLine_of_some (h.isUnbroken.cutLine? rest) (Text.toUtf8_ne_nil hne)) hnone

/-- An empty line is passed over. -/
lemma nextFrame_lineEnd (rest : Bytes) :
    nextFrame ⟨Text.toUtf8 Board.lineEnd ++ rest⟩ = nextFrame ⟨rest⟩ := by
  have hline : nextLine ⟨Text.toUtf8 Board.lineEnd ++ rest⟩ = nextLine ⟨rest⟩ :=
    nextLine_of_empty (Text.isOneLine_nil.isUnbroken.cutLine? rest)
  rw [nextFrame, nextFrame, hline]

/-- The noise before an answer is passed over. -/
lemma nextFrame_noise (rest : Bytes) :
    nextFrame ⟨Text.toUtf8 Board.noise ++ rest⟩ = nextFrame ⟨rest⟩ := by
  have hbytes (remark : Text) :
      Text.toUtf8 (remark ++ Board.lineEnd ++ Board.lineEnd) ++ rest =
        Text.toUtf8 (remark ++ Board.lineEnd) ++ (Text.toUtf8 Board.lineEnd ++ rest) := by
    simp only [Text.toUtf8_append, List.append_assoc]
  have hnone : Frame.classify? (Text.received "# atmd debug output".toList) = none := by
    rw [Text.IsAscii.received_eq (by decide)]
    decide
  unfold Board.noise
  rw [hbytes, nextFrame_of_remark (by decide) (by decide) hnone, nextFrame_lineEnd]

end ReceiveBuffer

namespace Board

/-- An answer on the wire, behind the noise if there is any. -/
lemma toUtf8_transcript (noisy : Bool) (frames : List Frame) :
    Text.toUtf8 (transcript noisy frames) =
      (if noisy then Text.toUtf8 noise else []) ++ frames.flatMap Frame.wire := by
  have hframes : Text.toUtf8 (frames.flatMap fun f => f.text ++ lineEnd) =
      frames.flatMap Frame.wire := by
    induction frames with
    | nil => rfl
    | cons f frames ih => rw [List.flatMap_cons, Text.toUtf8_append, ih]; rfl
  rw [transcript, Text.toUtf8_append, hframes]
  split <;> rfl

end Board

end TimingBoard
