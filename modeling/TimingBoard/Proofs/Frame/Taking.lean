import Mathlib.Algebra.GroupWithZero.Nat
import TimingBoard.Proofs.Frame.Lines

/-!
# Lines that are taken from a buffer

A stream of bytes is split at every carriage return that a line feed follows, and nowhere else.
This can be said without an algorithm: the stream is its lines with their ends, and the incomplete
rest, and neither a line nor the rest holds such a pair.  A stream has only one split.

Bytes are put into a receive buffer, and lines and frames are taken from it, in any order.  The
lines that have been taken or passed over are the first ones of everything that was received, the
lines after them are the lines of the buffer, and no byte is lost between the two.  What is taken
next is the first line of the buffer that can be read as what is asked for.
-/

namespace TimingBoard

/-! ## The split of a stream -/

/-- The two bytes that end a line. -/
def terminator : Bytes := [carriageReturn, lineFeed]

/-- A line with its end. -/
def ended (line : Bytes) : Bytes :=
  line ++ terminator

/-- A stream is split into lines and an incomplete rest. -/
structure Splits (bytes : Bytes) (lines : List Bytes) (rest : Bytes) : Prop where
  bytes_eq : bytes = lines.flatMap ended ++ rest
  unbroken : ∀ line ∈ lines, ¬ terminator <:+: line
  unfinished : ¬ terminator <:+: rest

section Split

variable {bytes line after rest more : Bytes} {lines : List Bytes}

/-- A pair at the start of some bytes, or further on. -/
lemma terminator_infix_cons {b : UInt8} :
    terminator <:+: b :: rest ↔
      (b = carriageReturn ∧ rest.head? = some lineFeed) ∨ terminator <:+: rest := by
  rw [List.infix_cons_iff]
  refine or_congr_left ?_
  cases rest with
  | nil => simp [terminator]
  | cons c rest => simp [terminator, eq_comm]

/-- No line is cut off where there is no pair. -/
lemma cutLine?_of_unfinished (h : ¬ terminator <:+: rest) : cutLine? rest = none := by
  induction rest with
  | nil => rfl
  | cons b rest ih =>
    obtain ⟨hb, hrest⟩ := not_or.1 (mt terminator_infix_cons.2 h)
    rw [cutLine?, if_neg hb, ih hrest]
    rfl

/-- A line is cut off at the first pair. -/
lemma cutLine?_ended (h : ¬ terminator <:+: line) (after : Bytes) :
    cutLine? (ended line ++ after) = some (line, after) := by
  induction line with
  | nil => simp [ended, terminator, cutLine?]
  | cons b line ih =>
    obtain ⟨hb, hline⟩ := not_or.1 (mt terminator_infix_cons.2 h)
    -- The byte after `b` is the next one of the line, or the carriage return of its end.
    have hpair : ¬ (b = carriageReturn ∧ (ended line ++ after).head? = some lineFeed) := by
      rintro ⟨rfl, hhead⟩
      cases line with
      | nil => simp [ended, terminator, carriageReturn, lineFeed] at hhead
      | cons c line => exact hb ⟨rfl, by simpa [ended] using hhead⟩
    have hcons : ended (b :: line) ++ after = b :: (ended line ++ after) := rfl
    rw [hcons, cutLine?, if_neg hpair, ih hline]
    rfl

/-- A line that is cut off holds no pair. -/
lemma unbroken_of_cutLine? (h : cutLine? bytes = some (line, after)) : ¬ terminator <:+: line := by
  induction bytes generalizing line after with
  | nil => simp [cutLine?] at h
  | cons b bytes ih =>
    rw [cutLine?] at h
    split at h
    · next hpair =>
      simp only [Option.some.injEq, Prod.mk.injEq] at h
      simp [← h.1, terminator]
    · next hpair =>
      obtain ⟨⟨line', after'⟩, hcut, heq⟩ := Option.map_eq_some_iff.1 h
      simp only [Prod.mk.injEq] at heq
      obtain ⟨rfl, rfl⟩ := heq
      rw [terminator_infix_cons]
      rintro (⟨hb, hhead⟩ | hinfix)
      · refine hpair ⟨hb, ?_⟩
        rw [append_of_cutLine? hcut, List.head?_append, hhead]
        rfl
      · exact ih hcut hinfix

/-- Bytes from which no line can be cut off hold no pair. -/
lemma unfinished_of_cutLine? (h : cutLine? bytes = none) : ¬ terminator <:+: bytes := by
  induction bytes with
  | nil => simp [terminator]
  | cons b bytes ih =>
    rw [cutLine?] at h
    split at h
    · simp at h
    · next hpair =>
      rw [terminator_infix_cons]
      rintro (hfirst | hinfix)
      · exact hpair hfirst
      · exact ih (Option.map_eq_none_iff.1 h) hinfix

/-- The lines and the rest of some bytes split them. -/
lemma splits_splitLines (bytes : Bytes) :
    Splits bytes (splitLines bytes).1 (splitLines bytes).2 := by
  fun_induction splitLines bytes with
  | case1 bytes hcut => exact ⟨rfl, by simp, unfinished_of_cutLine? hcut⟩
  | case2 bytes line after hcut ih =>
    refine ⟨?_, ?_, ih.unfinished⟩
    · rw [List.flatMap_cons, List.append_assoc, ← ih.bytes_eq, append_of_cutLine? hcut]
      simp [ended, terminator]
    · exact List.forall_mem_cons.2 ⟨unbroken_of_cutLine? hcut, ih.unbroken⟩

/-- There is only one split. -/
lemma Splits.splitLines_eq (h : Splits bytes lines rest) : splitLines bytes = (lines, rest) := by
  induction lines generalizing bytes with
  | nil =>
    obtain rfl : bytes = rest := h.bytes_eq
    exact splitLines_of_none (cutLine?_of_unfinished h.unfinished)
  | cons line lines ih =>
    obtain ⟨hline, hlines⟩ := List.forall_mem_cons.1 h.unbroken
    have hafter := ih ⟨rfl, hlines, h.unfinished⟩
    have hbytes : bytes = ended line ++ (lines.flatMap ended ++ rest) := by
      rw [h.bytes_eq, List.flatMap_cons, List.append_assoc]
    rw [splitLines_of_some (hbytes ▸ cutLine?_ended hline _), hafter]

/-- Two splits of one stream are the same. -/
lemma Splits.unique {lines' : List Bytes} {rest' : Bytes} (h : Splits bytes lines rest)
    (h' : Splits bytes lines' rest') : lines' = lines ∧ rest' = rest :=
  Prod.ext_iff.1 (h'.splitLines_eq.symm.trans h.splitLines_eq)

/-- The split goes on from the incomplete rest when more bytes arrive. -/
lemma Splits.append {lines' : List Bytes} {rest' : Bytes} (h : Splits bytes lines rest)
    (hmore : Splits (rest ++ more) lines' rest') :
    Splits (bytes ++ more) (lines ++ lines') rest' := by
  refine ⟨?_, ?_, hmore.unfinished⟩
  · rw [h.bytes_eq, List.append_assoc, hmore.bytes_eq, List.flatMap_append, List.append_assoc]
  · exact List.forall_mem_append.2 ⟨h.unbroken, hmore.unbroken⟩

/-- The last lines of a stream are the split of the bytes they take up. -/
lemma Splits.drop {first last : List Bytes} (h : Splits bytes (first ++ last) rest) :
    Splits (last.flatMap ended ++ rest) last rest :=
  ⟨rfl, (List.forall_mem_append.1 h.unbroken).2, h.unfinished⟩

/-- A line ends at every pair of a stream. -/
lemma Splits.ends_at (h : Splits bytes lines rest) {before after : Bytes}
    (hbytes : bytes = before ++ terminator ++ after) :
    ∃ first last, lines = first ++ last ∧ first.flatMap ended = before ++ terminator := by
  have hbefore := splits_splitLines before
  have hafter := splits_splitLines after
  generalize (splitLines before).1 = linesBefore, (splitLines before).2 = restBefore at hbefore
  generalize (splitLines after).1 = linesAfter, (splitLines after).2 = restAfter at hafter
  -- What is unfinished before the pair is ended by it.
  have hpair :
      Splits (restBefore ++ (terminator ++ after)) (restBefore :: linesAfter) restAfter := by
    refine ⟨?_, List.forall_mem_cons.2 ⟨hbefore.unfinished, hafter.unbroken⟩, hafter.unfinished⟩
    rw [List.flatMap_cons, List.append_assoc, ← hafter.bytes_eq, ended, List.append_assoc]
  have hwhole := hbefore.append hpair
  rw [← List.append_assoc, ← hbytes] at hwhole
  refine ⟨linesBefore ++ [restBefore], linesAfter, ?_, ?_⟩
  · rw [(hwhole.unique h).1]
    simp
  · rw [hbefore.bytes_eq]
    simp [ended]

end Split

/-! ## Taking from a buffer -/

/-- The first line that can be read is taken, and the lines before it are dropped. When no line can
be read nothing is taken, and all lines are dropped. -/
inductive TakesFirst {α : Type} (read : Bytes → Option α) (lines : List Bytes) (rest : Bytes) :
    Option α × ReceiveBuffer → Prop
  | taken (dropped : List Bytes) {later : List Bytes} {line : Bytes} {a : α} :
      lines = dropped ++ line :: later →
      (∀ other ∈ dropped, read other = none) → read line = some a →
      TakesFirst read lines rest (some a, ⟨later.flatMap ended ++ rest⟩)
  | nothing : (∀ line ∈ lines, read line = none) → TakesFirst read lines rest (none, ⟨rest⟩)

section TakesFirst

variable {α : Type} {read : Bytes → Option α} {lines : List Bytes} {rest : Bytes}
  {outcome : Option α × ReceiveBuffer}

/-- Lines that cannot be read are dropped. -/
lemma TakesFirst.append {first : List Bytes} (h : TakesFirst read lines rest outcome)
    (hfirst : ∀ line ∈ first, read line = none) :
      TakesFirst read (first ++ lines) rest outcome := by
  cases h with
  | @taken dropped later line a hlines hdropped hread =>
    refine .taken (first ++ dropped) ?_ ?_ hread
    · rw [hlines, List.append_assoc]
    · exact List.forall_mem_append.2 ⟨hfirst, hdropped⟩
  | nothing hnone => exact .nothing (List.forall_mem_append.2 ⟨hfirst, hnone⟩)

/-- Nothing is taken exactly when no line can be read. -/
lemma TakesFirst.eq_none_iff (h : TakesFirst read lines rest outcome) :
    outcome.1 = none ↔ ∀ line ∈ lines, read line = none := by
  cases h with
  | taken dropped hlines _ hread =>
    refine iff_of_false (by simp) fun hnone => ?_
    simp [hnone _ (hlines ▸ List.mem_append_right _ List.mem_cons_self)] at hread
  | nothing hnone => exact iff_of_true rfl hnone

end TakesFirst

/-- A line as text, if there is anything in it. -/
def textOf? (line : Bytes) : Option Text :=
  if line = [] then none else some (Text.ofLatin1 line)

/-- A line as a frame. -/
def frameOf? (line : Bytes) : Option Frame :=
  Frame.classify? (Text.ofLatin1 line)

lemma textOf?_eq_none {line : Bytes} : textOf? line = none ↔ line = [] := by
  simp [textOf?]

lemma ofLatin1_of_textOf? {line : Bytes} {text : Text} (h : textOf? line = some text) :
    Text.ofLatin1 line = text := by
  unfold textOf? at h
  split at h
  · simp at h
  · exact Option.some.inj h

/-- An empty line is no frame. -/
lemma frameOf?_of_textOf? {line : Bytes} (h : textOf? line = none) : frameOf? line = none := by
  rw [textOf?_eq_none.1 h]
  decide

/-- A character of the same number is read for each byte. -/
lemma Text.map_toNat_ofLatin1 (bytes : Bytes) :
    (ofLatin1 bytes).map Char.toNat = bytes.map UInt8.toNat := by
  rw [ofLatin1, List.map_map]
  refine List.map_congr_left fun b _ => ?_
  have hvalid : b.toNat.isValidChar := Or.inl (Nat.lt_trans b.toNat_lt (by decide))
  rw [Function.comp_apply, Char.ofNat, dif_pos hvalid]
  exact UInt32.toNat_ofNatLT

namespace ReceiveBuffer

variable {b : ReceiveBuffer} {lines : List Bytes} {rest : Bytes}

/-- The next line is the first one that is not empty. -/
lemma takesFirst_nextLine (h : Splits b.bytes lines rest) :
    TakesFirst textOf? lines rest b.nextLine := by
  fun_induction nextLine b generalizing lines with
  | case1 b hcut =>
    obtain ⟨rfl, rfl⟩ := Prod.mk.inj (h.splitLines_eq.symm.trans (splitLines_of_none hcut))
    exact .nothing (by simp)
  | case2 b after hcut ih =>
    obtain ⟨rfl, rfl⟩ := Prod.mk.inj (h.splitLines_eq.symm.trans (splitLines_of_some hcut))
    exact (ih (splits_splitLines after)).append (List.forall_mem_singleton.2 rfl)
  | case3 b line after hline hcut =>
    obtain ⟨rfl, rfl⟩ := Prod.mk.inj (h.splitLines_eq.symm.trans (splitLines_of_some hcut))
    have hafter := (splits_splitLines after).bytes_eq
    conv => arg 4; rw [hafter]
    exact .taken [] rfl (by simp) (if_neg fun hnil => hline hnil)

/-- The next frame is the first line that is one. -/
lemma takesFirst_nextFrame (h : Splits b.bytes lines rest) :
    TakesFirst frameOf? lines rest b.nextFrame := by
  fun_induction nextFrame b generalizing lines with
  | case1 b after hnext =>
    have hline := takesFirst_nextLine h
    rw [hnext] at hline
    cases hline with
    | nothing hnone => exact .nothing fun line hmem => frameOf?_of_textOf? (hnone line hmem)
  | case2 b text after hnext frame hframe =>
    have hline := takesFirst_nextLine h
    rw [hnext] at hline
    cases hline with
    | @taken dropped later line _ hlines hdropped hread =>
      refine .taken dropped hlines (fun other hmem => frameOf?_of_textOf? (hdropped other hmem)) ?_
      rwa [frameOf?, ofLatin1_of_textOf? hread]
  | case3 b text after hnext hframe ih =>
    have hline := takesFirst_nextLine h
    rw [hnext] at hline
    cases hline with
    | @taken dropped later line _ hlines hdropped hread =>
      subst hlines
      have hnoise : frameOf? line = none := by rwa [frameOf?, ofLatin1_of_textOf? hread]
      rw [List.append_cons] at h ⊢
      refine (ih h.drop).append (List.forall_mem_append.2 ⟨fun other hmem => ?_, ?_⟩)
      · exact frameOf?_of_textOf? (hdropped other hmem)
      · simpa using hnoise

end ReceiveBuffer

/-! ## Any sequence of acts -/

/-- Something that is done with a receive buffer. -/
inductive BufferAct where
  | receive (more : Bytes)
  | nextLine
  | nextFrame

namespace BufferAct

/-- The buffer after an act. -/
def perform (b : ReceiveBuffer) : BufferAct → ReceiveBuffer
  | receive more => b.receive more
  | nextLine => b.nextLine.2
  | nextFrame => b.nextFrame.2

/-- The bytes that an act puts into the buffer. -/
def received : BufferAct → Bytes
  | receive more => more
  | _ => []

end BufferAct

/-- Of the lines of everything that was received, the first ones were taken from a buffer, and the
others are left in it. -/
structure ReceiveBuffer.HasTaken (b : ReceiveBuffer) (bytes : Bytes) (taken left : List Bytes)
    (rest : Bytes) : Prop where
  splits : Splits bytes (taken ++ left) rest
  bytes_eq : b.bytes = left.flatMap ended ++ rest

namespace ReceiveBuffer

variable {b : ReceiveBuffer} {bytes rest : Bytes} {taken left : List Bytes}

lemma HasTaken.splits_left (h : b.HasTaken bytes taken left rest) : Splits b.bytes left rest :=
  h.bytes_eq ▸ h.splits.drop

/-- What was received and is not in the buffer any more is the lines that were taken. -/
lemma HasTaken.append_eq (h : b.HasTaken bytes taken left rest) :
    bytes = taken.flatMap ended ++ b.bytes := by
  rw [h.splits.bytes_eq, h.bytes_eq, List.flatMap_append, List.append_assoc]

/-- Every byte that was received is in the buffer, or in a line that was taken, or in its end. -/
lemma HasTaken.length_eq (h : b.HasTaken bytes taken left rest) :
    bytes.length = b.size + (taken.map fun line => line.length + 2).sum := by
  have hended (line : Bytes) : (ended line).length = line.length + 2 := List.length_append
  rw [h.append_eq, List.length_append, List.length_flatMap, Nat.add_comm]
  simp only [hended]
  rfl

/-- The first line that can be read is taken, and so are the lines before it. -/
lemma HasTaken.takesFirst {α : Type} {read : Bytes → Option α}
    {outcome : Option α × ReceiveBuffer} (h : b.HasTaken bytes taken left rest)
    (hfirst : TakesFirst read left rest outcome) :
    ∃ taken' left', outcome.2.HasTaken bytes taken' left' rest := by
  cases hfirst with
  | @taken dropped later line a hleft _ _ =>
    refine ⟨taken ++ dropped ++ [line], later, ?_, rfl⟩
    simpa [hleft] using h.splits
  | nothing _ => exact ⟨taken ++ left, [], by simpa using h.splits, rfl⟩

/-- An act adds its bytes to those received, and at most moves lines of the buffer to those
taken. -/
lemma HasTaken.perform (h : b.HasTaken bytes taken left rest) (act : BufferAct) :
    ∃ taken' left' rest', (act.perform b).HasTaken (bytes ++ act.received) taken' left' rest' := by
  cases act with
  | receive more =>
    have hmore := splits_splitLines (rest ++ more)
    refine ⟨taken, left ++ (splitLines (rest ++ more)).1, (splitLines (rest ++ more)).2, ?_, ?_⟩
    · rw [← List.append_assoc]
      exact h.splits.append hmore
    · rw [List.flatMap_append, List.append_assoc, ← hmore.bytes_eq, ← List.append_assoc,
        ← h.bytes_eq]
      rfl
  | nextLine =>
    obtain ⟨taken', left', h'⟩ := h.takesFirst (takesFirst_nextLine h.splits_left)
    exact ⟨taken', left', rest, (List.append_nil bytes).symm ▸ h'⟩
  | nextFrame =>
    obtain ⟨taken', left', h'⟩ := h.takesFirst (takesFirst_nextFrame h.splits_left)
    exact ⟨taken', left', rest, (List.append_nil bytes).symm ▸ h'⟩

/-- Acts do so one after the other. -/
lemma HasTaken.foldl (h : b.HasTaken bytes taken left rest) (acts : List BufferAct) :
    ∃ taken' left' rest', (acts.foldl BufferAct.perform b).HasTaken
      (bytes ++ acts.flatMap BufferAct.received) taken' left' rest' := by
  induction acts generalizing b bytes taken left rest with
  | nil => exact ⟨taken, left, rest, by simpa using h⟩
  | cons act acts ih =>
    obtain ⟨taken', left', rest', h'⟩ := h.perform act
    simpa using ih h'

lemma hasTaken_empty : empty.HasTaken [] [] [] [] :=
  ⟨⟨rfl, by simp, by simp [terminator]⟩, rfl⟩

/-- **A receive buffer splits what it receives, and loses nothing.** Bytes in pieces of any size are
put into an empty buffer, and lines and frames are taken from it, in any order. Everything received
has one split, whatever the pieces were: a line ends at every carriage return that a line feed
follows, and nowhere else. The first lines of it are those that were taken, and they are what was
received and is not in the buffer; the lines after them are those of the buffer. The next line is
the first of these that is not empty, with a character of the same number for each byte, and there
is none exactly when all of them are empty; the next frame is the first of them that is a frame, and
there is none exactly when none of them is. -/
theorem splits_of_acts (acts : List BufferAct) :
    let bytes := acts.flatMap BufferAct.received
    let b := acts.foldl BufferAct.perform .empty
    ∃ taken left rest,
      Splits bytes (taken ++ left) rest ∧ Splits b.bytes left rest ∧
      (∀ before after, bytes = before ++ terminator ++ after →
        ∃ first last, taken ++ left = first ++ last ∧ first.flatMap ended = before ++ terminator) ∧
      bytes = taken.flatMap ended ++ b.bytes ∧
      bytes.length = b.size + (taken.map fun line => line.length + 2).sum ∧
      TakesFirst textOf? left rest b.nextLine ∧
      (b.nextLine.1 = none ↔ ∀ line ∈ left, line = []) ∧
      (∀ line text, textOf? line = some text → text.map Char.toNat = line.map UInt8.toNat) ∧
      TakesFirst frameOf? left rest b.nextFrame ∧
      (b.nextFrame.1 = none ↔ ∀ line ∈ left, frameOf? line = none) := by
  intro bytes b
  obtain ⟨taken, left, rest, h⟩ := hasTaken_empty.foldl acts
  rw [List.nil_append] at h
  have hline := takesFirst_nextLine h.splits_left
  have hframe := takesFirst_nextFrame h.splits_left
  refine ⟨taken, left, rest, h.splits, h.splits_left, fun _ _ => h.splits.ends_at, h.append_eq,
    h.length_eq, hline, ?_, fun line text htext => ?_, hframe, hframe.eq_none_iff⟩
  · simpa only [textOf?_eq_none] using hline.eq_none_iff
  · rw [← ofLatin1_of_textOf? htext, Text.map_toNat_ofLatin1]

/-- A line feed alone ends no line, and a pair may arrive in two pieces. -/
example : ([.receive [0x41, lineFeed, carriageReturn], .receive [lineFeed, carriageReturn]].foldl
    BufferAct.perform .empty).nextLine = (some ['A', '\n'], ⟨[carriageReturn]⟩) := by
  decide +kernel

end ReceiveBuffer

end TimingBoard
