import Mathlib.Tactic.Lemma
import TimingBoard.Frame.Buffer

/-!
# The frames of a stream of bytes

A stream of bytes is a sequence of complete lines and an incomplete rest.  Its frames are what is
left of the lines when the empty ones and those without a tag are dropped.  This says nothing about
the pieces in which the stream arrives, and nothing about a buffer.

The receive buffer is then measured against it.  Asking the buffer for a frame gives the first frame
of the bytes it holds, and leaves the others; when there is none it leaves the incomplete rest.
Bytes that arrive later do not change a frame that could be taken before, so that taking frames
while a stream arrives and taking them from the whole stream is the same.
-/

namespace TimingBoard

/-! ## Lines -/

/-- Bytes without a carriage return are part of the line that is cut off behind them. -/
lemma cutLine?_append_left {bytes more line after : Bytes} (h : carriageReturn ∉ bytes)
    (hcut : cutLine? more = some (line, after)) :
    cutLine? (bytes ++ more) = some (bytes ++ line, after) := by
  induction bytes with
  | nil => exact hcut
  | cons b bytes ih =>
    have hb : b ≠ carriageReturn := fun hb => h (by simp [hb])
    have hrest := ih fun hmem => h (by simp [hmem])
    simp [cutLine?, hb, hrest]

/-- Later bytes do not change the first line. -/
lemma cutLine?_append {bytes line after : Bytes} (h : cutLine? bytes = some (line, after))
    (more : Bytes) : cutLine? (bytes ++ more) = some (line, after ++ more) := by
  induction bytes generalizing line after with
  | nil => simp [cutLine?] at h
  | cons b rest ih =>
    cases rest with
    | nil => simp [cutLine?] at h
    | cons c rest =>
      rw [cutLine?] at h
      rw [List.cons_append, cutLine?]
      split at h
      · next hend =>
        simp only [List.tail_cons, Option.some.injEq, Prod.mk.injEq] at h
        obtain ⟨rfl, rfl⟩ := h
        simpa using hend
      · next hend =>
        obtain ⟨⟨line', after'⟩, hcut, heq⟩ := Option.map_eq_some_iff.1 h
        simp only [Prod.mk.injEq] at heq
        obtain ⟨rfl, rfl⟩ := heq
        rw [if_neg (by simpa using hend), ih hcut]
        rfl

/-- The bytes of a stream after its last complete line. -/
def remainder (bytes : Bytes) : Bytes :=
  (splitLines bytes).2

/-- The complete lines of a stream that are not empty. -/
def filledLines (bytes : Bytes) : List Bytes :=
  (splitLines bytes).1.filter (· ≠ [])

/-- The frames of a stream: its complete lines, without the empty ones and those that have no
tag. -/
def framesOf (bytes : Bytes) : List Frame :=
  (filledLines bytes).filterMap fun line => Frame.classify? (Text.ofLatin1 line)

section Split

variable {bytes line after : Bytes}

lemma splitLines_of_none (h : cutLine? bytes = none) : splitLines bytes = ([], bytes) := by
  rw [splitLines]
  split
  · rfl
  · next hcut => simp [h] at hcut

lemma splitLines_of_some (h : cutLine? bytes = some (line, after)) :
    splitLines bytes = (line :: (splitLines after).1, (splitLines after).2) := by
  rw [splitLines]
  split
  · next hcut => simp [h] at hcut
  · next hcut =>
    rw [h, Option.some.injEq, Prod.mk.injEq] at hcut
    obtain ⟨rfl, rfl⟩ := hcut
    rfl

/-- Splitting goes on from the incomplete rest when more bytes arrive. -/
lemma splitLines_append (bytes more : Bytes) :
    splitLines (bytes ++ more) =
      ((splitLines bytes).1 ++ (splitLines (remainder bytes ++ more)).1,
        remainder (remainder bytes ++ more)) := by
  unfold remainder
  fun_induction splitLines bytes with
  | case1 bytes hcut => simp
  | case2 bytes line after hcut ih =>
    rw [splitLines_of_some (cutLine?_append hcut more), ih]
    simp

/-- The incomplete rest holds no complete line. -/
lemma cutLine?_remainder (bytes : Bytes) : cutLine? (remainder bytes) = none := by
  unfold remainder
  fun_induction splitLines bytes with
  | case1 bytes hcut => exact hcut
  | case2 bytes line after hcut ih => exact ih

@[simp] lemma remainder_remainder (bytes : Bytes) :
    remainder (remainder bytes) = remainder bytes := by
  rw [remainder, splitLines_of_none (cutLine?_remainder bytes)]

lemma remainder_append (bytes more : Bytes) :
    remainder (bytes ++ more) = remainder (remainder bytes ++ more) := by
  rw [remainder, splitLines_append]

lemma remainder_of_some (h : cutLine? bytes = some (line, after)) :
    remainder bytes = remainder after := by
  simp [remainder, splitLines_of_some h]

@[simp] lemma filledLines_remainder (bytes : Bytes) : filledLines (remainder bytes) = [] := by
  simp [filledLines, splitLines_of_none (cutLine?_remainder bytes)]

lemma filledLines_append (bytes more : Bytes) :
    filledLines (bytes ++ more) = filledLines bytes ++ filledLines (remainder bytes ++ more) := by
  rw [filledLines, splitLines_append, List.filter_append]
  rfl

lemma filledLines_of_empty (h : cutLine? bytes = some ([], after)) :
    filledLines bytes = filledLines after := by
  simp [filledLines, splitLines_of_some h]

lemma filledLines_of_some (h : cutLine? bytes = some (line, after)) (hline : line ≠ []) :
    filledLines bytes = line :: filledLines after := by
  simp [filledLines, splitLines_of_some h, hline]

@[simp] lemma framesOf_remainder (bytes : Bytes) : framesOf (remainder bytes) = [] := by
  simp [framesOf]

/-- The frames of a stream are those of its start and those of the incomplete rest with what
follows. -/
lemma framesOf_append (bytes more : Bytes) :
    framesOf (bytes ++ more) = framesOf bytes ++ framesOf (remainder bytes ++ more) := by
  rw [framesOf, filledLines_append, List.filterMap_append]
  rfl

@[simp] lemma remainder_nil : remainder [] = [] := by
  rw [remainder, splitLines_of_none (by simp [cutLine?])]

@[simp] lemma framesOf_nil : framesOf [] = [] := by
  rw [← remainder_nil, framesOf_remainder]

/-- Streams of complete lines are put together frame by frame. -/
lemma framesOf_append_of_remainder (h : remainder bytes = []) (more : Bytes) :
    framesOf (bytes ++ more) = framesOf bytes ++ framesOf more := by
  rw [framesOf_append, h, List.nil_append]

lemma remainder_append_of_remainder (h : remainder bytes = []) (more : Bytes) :
    remainder (bytes ++ more) = remainder more := by
  rw [remainder_append, h, List.nil_append]

end Split

/-! ## Taking frames from a buffer -/

namespace ReceiveBuffer

variable {b after : ReceiveBuffer} {text : Text}

lemma nextLine_of_empty {rest : Bytes} (h : cutLine? b.bytes = some ([], rest)) :
    b.nextLine = nextLine ⟨rest⟩ := by
  rw [nextLine]
  split <;> simp_all

lemma nextLine_of_some {line rest : Bytes} (h : cutLine? b.bytes = some (line, rest))
    (hline : line ≠ []) : b.nextLine = (some (Text.ofLatin1 line), ⟨rest⟩) := by
  rw [nextLine]
  split <;> simp_all

lemma nextFrame_of_frame {f : Frame} (h : b.nextLine = (some text, after))
    (hframe : Frame.classify? text = some f) : b.nextFrame = (some f, after) := by
  rw [nextFrame]
  split <;> simp_all

lemma nextFrame_of_noise (h : b.nextLine = (some text, after))
    (hnoise : Frame.classify? text = none) : b.nextFrame = after.nextFrame := by
  rw [nextFrame]
  split <;> simp_all

/-- A buffer without a complete line that is not empty gives none, and keeps the incomplete rest. -/
lemma nextLine_eq_none (h : b.nextLine = (none, after)) :
    filledLines b.bytes = [] ∧ after = ⟨remainder b.bytes⟩ := by
  fun_induction nextLine b with
  | case1 b hcut =>
    obtain rfl : b = after := by simpa using h
    simp [filledLines, remainder, splitLines_of_none hcut]
  | case2 b rest hcut ih =>
    rw [filledLines_of_empty hcut, remainder_of_some hcut]
    exact ih h
  | case3 b line rest _ hcut => simp at h

/-- A line that is taken is the first one that is not empty, and the others stay. -/
lemma nextLine_eq_some (h : b.nextLine = (some text, after)) :
    ∃ line, text = Text.ofLatin1 line ∧ filledLines b.bytes = line :: filledLines after.bytes ∧
      remainder after.bytes = remainder b.bytes := by
  fun_induction nextLine b with
  | case1 b hcut => simp at h
  | case2 b rest hcut ih =>
    rw [filledLines_of_empty hcut, remainder_of_some hcut]
    exact ih h
  | case3 b line rest hline hcut =>
    simp only [Prod.mk.injEq, Option.some.injEq] at h
    obtain ⟨rfl, rfl⟩ := h
    exact ⟨line, rfl, filledLines_of_some hcut (fun hnil => hline hnil),
      (remainder_of_some hcut).symm⟩

/-- A buffer without a frame gives none, and keeps the incomplete rest. -/
lemma nextFrame_eq_none (h : b.nextFrame = (none, after)) :
    framesOf b.bytes = [] ∧ after = ⟨remainder b.bytes⟩ := by
  fun_induction nextFrame b with
  | case1 b rest hnext =>
    obtain rfl : rest = after := by simpa using h
    obtain ⟨hlines, hrest⟩ := nextLine_eq_none hnext
    exact ⟨by simp [framesOf, hlines], hrest⟩
  | case2 b line rest hnext frame hframe => simp at h
  | case3 b line rest hnext hframe ih =>
    obtain ⟨raw, rfl, hlines, hrest⟩ := nextLine_eq_some hnext
    obtain ⟨hframes, hafter⟩ := ih h
    refine ⟨?_, by rw [hafter, hrest]⟩
    simpa [framesOf, hlines, hframe] using hframes

/-- A frame that is taken is the first one, and the others stay. -/
lemma nextFrame_eq_some {f : Frame} (h : b.nextFrame = (some f, after)) :
    framesOf b.bytes = f :: framesOf after.bytes ∧ remainder after.bytes = remainder b.bytes := by
  fun_induction nextFrame b with
  | case1 b rest hnext => simp at h
  | case2 b line rest hnext frame hframe =>
    simp only [Prod.mk.injEq, Option.some.injEq] at h
    obtain ⟨rfl, rfl⟩ := h
    obtain ⟨raw, rfl, hlines, hrest⟩ := nextLine_eq_some hnext
    exact ⟨by simp [framesOf, hlines, hframe], hrest⟩
  | case3 b line rest hnext hframe ih =>
    obtain ⟨raw, rfl, hlines, hrest⟩ := nextLine_eq_some hnext
    obtain ⟨hframes, hafter⟩ := ih h
    refine ⟨?_, by rw [hafter, hrest]⟩
    simpa [framesOf, hlines, hframe] using hframes

/-- The next frame of a buffer decides which frames it holds and what is left after them. -/
lemma framesOf_eq_of_nextFrame_eq {b' : ReceiveBuffer} (h : b.nextFrame = b'.nextFrame) :
    framesOf b.bytes = framesOf b'.bytes ∧ remainder b.bytes = remainder b'.bytes := by
  rcases hb' : b'.nextFrame with ⟨_ | f, after⟩
  · obtain ⟨hframes, hafter⟩ := nextFrame_eq_none (h.trans hb')
    obtain ⟨hframes', hafter'⟩ := nextFrame_eq_none hb'
    rw [hafter, ReceiveBuffer.mk.injEq] at hafter'
    exact ⟨hframes.trans hframes'.symm, hafter'⟩
  · obtain ⟨hframes, hrest⟩ := nextFrame_eq_some (h.trans hb')
    obtain ⟨hframes', hrest'⟩ := nextFrame_eq_some hb'
    exact ⟨hframes.trans hframes'.symm, hrest.symm.trans hrest'⟩

/-! ## Frames and bytes to come -/

/-- A line that can be taken is not changed by later bytes. -/
lemma nextLine_receive_of_some (h : b.nextLine = (some text, after)) (more : Bytes) :
    (b.receive more).nextLine = (some text, after.receive more) := by
  fun_induction nextLine b with
  | case1 b hcut => simp at h
  | case2 b rest hcut ih =>
    rw [nextLine_of_empty (b := b.receive more) (cutLine?_append hcut more)]
    exact ih h
  | case3 b line rest hline hcut =>
    simp only [Prod.mk.injEq, Option.some.injEq] at h
    obtain ⟨rfl, rfl⟩ := h
    exact nextLine_of_some (cutLine?_append hcut more) (fun hnil => hline hnil)

/-- Looking for a line too early does not change what is found later. -/
lemma nextLine_receive_of_none (h : b.nextLine = (none, after)) (more : Bytes) :
    (b.receive more).nextLine = (after.receive more).nextLine := by
  fun_induction nextLine b with
  | case1 b hcut =>
    obtain rfl : b = after := by simpa using h
    rfl
  | case2 b rest hcut ih =>
    rw [nextLine_of_empty (b := b.receive more) (cutLine?_append hcut more)]
    exact ih h
  | case3 b line rest _ hcut => simp at h

/-- A frame that can be taken is not changed by later bytes. -/
lemma nextFrame_receive_of_some {f : Frame} (h : b.nextFrame = (some f, after)) (more : Bytes) :
    (b.receive more).nextFrame = (some f, after.receive more) := by
  fun_induction nextFrame b with
  | case1 b rest hnext => simp at h
  | case2 b line rest hnext frame hframe =>
    simp only [Prod.mk.injEq, Option.some.injEq] at h
    obtain ⟨rfl, rfl⟩ := h
    exact nextFrame_of_frame (nextLine_receive_of_some hnext more) hframe
  | case3 b line rest hnext hframe ih =>
    rw [nextFrame_of_noise (nextLine_receive_of_some hnext more) hframe]
    exact ih h

/-- Looking for a frame too early does not change what is found later. -/
lemma nextFrame_receive_of_none (h : b.nextFrame = (none, after)) (more : Bytes) :
    (b.receive more).nextFrame = (after.receive more).nextFrame := by
  fun_induction nextFrame b with
  | case1 b rest hnext =>
    obtain rfl : rest = after := by simpa using h
    rw [nextFrame, nextFrame, nextLine_receive_of_none hnext]
  | case2 b line rest hnext frame hframe => simp at h
  | case3 b line rest hnext hframe ih =>
    rw [nextFrame_of_noise (nextLine_receive_of_some hnext more) hframe]
    exact ih h

end ReceiveBuffer

end TimingBoard
