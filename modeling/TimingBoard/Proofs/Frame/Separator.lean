import TimingBoard.Proofs.Frame.Taking
import TimingBoard.Proofs.Frame.Wire

/-!
# The byte after the tag

A received line is a frame if it starts with the bytes of a tag.  The byte after the tag is a
separator, and the bytes behind it should be the payload, a character for each of them.  Bytes above
the ASCII ones do no harm in the payload, and none of them can be taken for a part of a tag.

The separator is the one place where they do.  The line is cut by the length of its characters in
UTF-8, and a separator above the ASCII bytes is a character of two, so that the cut falls into its
middle.  Then the payload is empty, and all that stood in it is gone.
-/

namespace TimingBoard

namespace Text

/-- Different bytes are read as different texts. -/
lemma ofLatin1_inj {bytes more : Bytes} : ofLatin1 bytes = ofLatin1 more ↔ bytes = more := by
  refine ⟨fun h => ?_, congrArg ofLatin1⟩
  have hnat := congrArg (List.map Char.toNat) h
  rwa [map_toNat_ofLatin1, map_toNat_ofLatin1, List.map_inj_right fun _ _ => UInt8.toNat_inj.1]
    at hnat

/-- A byte is read as a character of one byte only if it is an ASCII byte. -/
lemma utf8Size_ofNat (b : UInt8) : (Char.ofNat b.toNat).utf8Size = 1 ↔ b < 0x80 := by
  have hnat : (Char.ofNat b.toNat).toNat = b.toNat :=
    (List.cons.inj (map_toNat_ofLatin1 [b])).1
  rw [Char.utf8Size_eq_one_iff, UInt32.le_iff_toNat_le, UInt8.lt_iff_toNat_lt]
  change (Char.ofNat b.toNat).toNat ≤ 127 ↔ b.toNat < 128
  rw [hnat, Nat.lt_succ_iff]

end Text

/-! ## Lines by their bytes -/

/-- The bytes of a tag. -/
def Tag.bytes (tag : Tag) : Bytes :=
  Text.toUtf8 tag.word

lemma Tag.ofWord?_eq_some {word : Text} {tag : Tag} : ofWord? word = some tag ↔
    word = tag.word := by
  constructor
  · intro h
    have hfound : (tag.word == word) = true :=
      List.find?_some (p := fun tag : Tag => tag.word == word) h
    exact (eq_of_beq hfound).symm
  · rintro rfl
    exact ofWord?_word tag

variable {line : Bytes}

/-- The line has something behind a separator that is no ASCII byte. -/
def LosesPayload (line : Bytes) : Prop :=
  line.drop 4 ≠ [] ∧ ∃ separator, (line.drop 3).head? = some separator ∧ 0x80 ≤ separator

/-- The payload that a line is read with. -/
def payloadRead (line : Bytes) : Text :=
  Frame.payloadOf ((Text.ofLatin1 line).drop 3)

/-- The payload is what stands behind the separator, or nothing when that is lost. -/
lemma payloadRead_cases (line : Bytes) : (LosesPayload line ∧ payloadRead line = []) ∨
    (¬ LosesPayload line ∧ payloadRead line = Text.ofLatin1 (line.drop 4)) := by
  have hdrop : (Text.ofLatin1 line).drop 3 = Text.ofLatin1 (line.drop 3) := List.map_drop.symm
  have hbehind : line.drop 4 = (line.drop 3).tail := by simp
  rw [payloadRead, hdrop, LosesPayload, hbehind]
  cases line.drop 3 with
  | nil => exact .inr ⟨by simp, rfl⟩
  | cons separator payload =>
    change _ ∧ (if _ then _ else _) = _ ∨ _ ∧ (if _ then _ else _) = _
    simp only [Text.utf8Size_ofNat, List.tail_cons, List.head?_cons, Option.some.injEq,
      exists_eq_left']
    by_cases hascii : separator < 0x80
    · rw [if_pos hascii]
      exact .inr ⟨fun h => absurd hascii (UInt8.not_lt.2 h.2), rfl⟩
    · rw [if_neg hascii]
      by_cases hpayload : payload = []
      · exact .inr ⟨fun h => h.1 hpayload, by rw [hpayload]; rfl⟩
      · exact .inl ⟨⟨hpayload, UInt8.not_lt.1 hascii⟩, rfl⟩

/-- A line is a frame exactly if it starts with the bytes of a tag. -/
lemma frameOf?_eq_some {f : Frame} :
    frameOf? line = some f ↔ line.take 3 = f.tag.bytes ∧ f.payload = payloadRead line := by
  have hword (tag : Tag) : (Text.ofLatin1 line).take 3 = tag.word ↔ line.take 3 = tag.bytes := by
    have hascii : Text.ofLatin1 tag.bytes = tag.word := (Frame.Tag.isAscii_word tag).received_eq
    have htake : (Text.ofLatin1 line).take 3 = Text.ofLatin1 (line.take 3) := List.map_take.symm
    rw [← hascii, htake, Text.ofLatin1_inj]
  obtain ⟨tag, payload⟩ := f
  simp only [frameOf?, Frame.classify?, Option.map_eq_some_iff, Tag.ofWord?_eq_some, hword,
    Frame.mk.injEq]
  constructor
  · rintro ⟨_, htake, rfl, rfl⟩
    exact ⟨htake, rfl⟩
  · rintro ⟨htake, rfl⟩
    exact ⟨tag, htake, rfl, rfl⟩

lemma frameOf?_eq_none : frameOf? line = none ↔ ∀ tag : Tag, line.take 3 ≠ tag.bytes := by
  rw [Option.eq_none_iff_forall_ne_some]
  constructor
  · exact fun h tag htake => h ⟨tag, payloadRead line⟩ (frameOf?_eq_some.2 ⟨htake, rfl⟩)
  · exact fun h f hf => h f.tag (frameOf?_eq_some.1 hf).1

/-! ## Lines at the front of a buffer -/

/-- A line that reaches a buffer is handed out as a frame, and what follows it is left. -/
def Delivers (line : Bytes) (f : Frame) : Prop :=
  ∀ rest, ReceiveBuffer.nextFrame ⟨ended line ++ rest⟩ = (some f, ⟨rest⟩)

/-- A line that reaches a buffer is passed over. -/
def PassesOver (line : Bytes) : Prop :=
  ∀ rest, ReceiveBuffer.nextFrame ⟨ended line ++ rest⟩ = ReceiveBuffer.nextFrame ⟨rest⟩

/-- Nothing comes of a line that is passed over and of an empty buffer. -/
lemma PassesOver.not_delivers (h : PassesOver line) (f : Frame) : ¬ Delivers line f := by
  intro hdelivers
  have hnone : ReceiveBuffer.nextFrame ⟨[]⟩ = (none, ⟨[]⟩) := by decide +kernel
  have hboth := (hdelivers []).symm.trans ((h []).trans hnone)
  cases hboth

/-- A line without an end in it is handed out if it is a frame, and passed over if it is none. -/
lemma delivers_or_passesOver (hline : ¬ terminator <:+: line) :
    (∃ f, frameOf? line = some f ∧ Delivers line f) ∨ frameOf? line = none ∧ PassesOver line := by
  have hcut (rest : Bytes) := cutLine?_ended hline rest
  cases hframe : frameOf? line with
  | some f =>
    have hfilled : line ≠ [] := by
      rintro rfl
      exact absurd hframe (by decide +revert)
    exact .inl ⟨f, rfl, fun rest =>
      ReceiveBuffer.nextFrame_of_frame (ReceiveBuffer.nextLine_of_some (hcut rest) hfilled) hframe⟩
  | none =>
    refine .inr ⟨rfl, fun rest => ?_⟩
    by_cases hfilled : line = []
    · subst hfilled
      have hnext := ReceiveBuffer.nextLine_of_empty (b := ⟨ended [] ++ rest⟩) (hcut rest)
      rw [ReceiveBuffer.nextFrame, ReceiveBuffer.nextFrame, hnext]
    · exact ReceiveBuffer.nextFrame_of_noise (ReceiveBuffer.nextLine_of_some (hcut rest) hfilled)
        hframe

lemma delivers_iff (hline : ¬ terminator <:+: line) {f : Frame} :
    Delivers line f ↔ line.take 3 = f.tag.bytes ∧ f.payload = payloadRead line := by
  rw [← frameOf?_eq_some]
  rcases delivers_or_passesOver hline with ⟨g, hframe, hdelivers⟩ | ⟨hnone, hpasses⟩
  · rw [hframe, Option.some.injEq]
    constructor
    · intro h
      have hboth := (hdelivers []).symm.trans (h [])
      exact Option.some.inj (Prod.mk.inj hboth).1
    · rintro rfl
      exact hdelivers
  · exact iff_of_false (hpasses.not_delivers f) (by simp [hnone])

lemma passesOver_iff (hline : ¬ terminator <:+: line) :
    PassesOver line ↔ ∀ tag : Tag, line.take 3 ≠ tag.bytes := by
  rw [← frameOf?_eq_none]
  rcases delivers_or_passesOver hline with ⟨g, hframe, hdelivers⟩ | ⟨hnone, hpasses⟩
  · exact iff_of_false (fun h => h.not_delivers g hdelivers) (by simp [hframe])
  · exact iff_of_true hpasses hnone

/-! ## What should come of a line -/

/-- A line with a tag is handed out with the tag and with a character of the same number for each
byte behind the separator, and a line without a tag is passed over. -/
structure IsKept (line : Bytes) : Prop where
  delivers : ∀ tag : Tag, line.take 3 = tag.bytes → ∃ payload, Delivers line ⟨tag, payload⟩ ∧
    payload.map Char.toNat = (line.drop 4).map UInt8.toNat
  passesOver : (∀ tag : Tag, line.take 3 ≠ tag.bytes) → PassesOver line

/-- A payload has the right characters exactly if it is not lost. -/
lemma payloadRead_iff : (payloadRead line).map Char.toNat = (line.drop 4).map UInt8.toNat ↔
    ¬ LosesPayload line := by
  rcases payloadRead_cases line with ⟨hloses, hnothing⟩ | ⟨hkeeps, hall⟩
  · refine iff_of_false (fun h => hloses.1 ?_) (not_not.2 hloses)
    rw [hnothing] at h
    exact List.map_eq_nil_iff.1 h.symm
  · rw [hall, Text.map_toNat_ofLatin1]
    exact iff_of_true rfl hkeeps

/-- The line of a frame is read as the frame. -/
lemma Frame.classify?_text (f : Frame) : classify? f.text = some f := by
  obtain ⟨tag, payload⟩ := f
  unfold text
  split
  · next hempty =>
    obtain rfl : payload = [] := hempty
    exact classify?_word tag
  · exact classify?_word_append tag payload

/-- **When a line keeps its payload.**  A line without an end in it reaches a buffer.  It is handed
out as a frame exactly if it starts with the bytes of a tag, and passed over otherwise.  A character
of the same number stands in the payload for each byte behind the separator, unless there are such
bytes and the separator is no ASCII byte; then the payload is empty.  So a line is kept exactly if
it has no tag or does not lose its payload.  The line that a frame is written as is read as this
frame, whatever its payload. -/
theorem isKept_iff (hline : ¬ terminator <:+: line) :
    (IsKept line ↔ (∃ tag : Tag, line.take 3 = tag.bytes) → ¬ LosesPayload line) ∧
    ((∃ f, Delivers line f) ↔ ∃ tag : Tag, line.take 3 = tag.bytes) ∧
    (PassesOver line ↔ ¬ ∃ tag : Tag, line.take 3 = tag.bytes) ∧
    (∀ f, Delivers line f → line.take 3 = f.tag.bytes ∧
      (¬ LosesPayload line → f.payload.map Char.toNat = (line.drop 4).map UInt8.toNat) ∧
      (LosesPayload line → f.payload = [])) ∧
    ∀ f : Frame, Frame.classify? f.text = some f := by
  refine ⟨⟨fun h => ?_, fun h => ⟨fun tag htake => ?_, (passesOver_iff hline).2⟩⟩, ?_, ?_, ?_,
    Frame.classify?_text⟩
  · rintro ⟨tag, htake⟩
    obtain ⟨payload, hdelivers, hsame⟩ := h.delivers tag htake
    have hpayload : payload = payloadRead line := ((delivers_iff hline).1 hdelivers).2
    exact payloadRead_iff.1 (hpayload ▸ hsame)
  · exact ⟨payloadRead line, (delivers_iff hline).2 ⟨htake, rfl⟩,
      payloadRead_iff.2 (h ⟨tag, htake⟩)⟩
  · constructor
    · rintro ⟨f, hdelivers⟩
      exact ⟨f.tag, ((delivers_iff hline).1 hdelivers).1⟩
    · rintro ⟨tag, htake⟩
      exact ⟨⟨tag, payloadRead line⟩, (delivers_iff hline).2 ⟨htake, rfl⟩⟩
  · rw [passesOver_iff hline, not_exists]
  · intro f hdelivers
    obtain ⟨htake, hpayload⟩ := (delivers_iff hline).1 hdelivers
    rw [hpayload]
    refine ⟨htake, payloadRead_iff.2, fun hloses => ?_⟩
    exact (payloadRead_cases line).elim And.right fun h => absurd hloses h.1

/-- Behind a space the byte `0xE9` is read as the character of this number. -/
theorem isKept_iff_highPayload :
    let line : Bytes := [0x56, 0x41, 0x4C, 0x20, 0xE9]
    ¬ terminator <:+: line ∧ IsKept line ∧
      ∃ f, Delivers line f ∧ f.tag = .value ∧ f.payload.map Char.toNat = [0xE9] := by
  intro line
  have hline : ¬ terminator <:+: line := by decide
  have hkeeps : ¬ LosesPayload line := by
    rintro ⟨-, separator, hseparator, hhigh⟩
    obtain rfl : 0x20 = separator := Option.some.inj hseparator
    exact absurd hhigh (by decide)
  obtain ⟨hkept, hdelivers, -, hframe, -⟩ := isKept_iff hline
  obtain ⟨f, hf⟩ := hdelivers.2 ⟨.value, by decide⟩
  obtain ⟨htake, hpayload, -⟩ := hframe f hf
  refine ⟨hline, hkept.2 fun _ => hkeeps, f, hf, ?_, hpayload hkeeps⟩
  -- No other tag has these bytes.
  have htags : ∀ tag ∈ Tag.all, line.take 3 = tag.bytes → tag = .value := by decide
  exact htags f.tag (by cases f.tag <;> decide) htake

/-- With the byte `0xA0` for a separator the line `VAL TT 5s` is handed out without its payload. -/
theorem not_isKept_noBreakSpace :
    let line : Bytes := [0x56, 0x41, 0x4C, 0xA0, 0x54, 0x54, 0x20, 0x35, 0x73]
    ¬ terminator <:+: line ∧ 3 ≤ line.length ∧ line.take 3 = Tag.value.bytes ∧
      Delivers line ⟨.value, []⟩ ∧ ¬ IsKept line := by
  intro line
  have hline : ¬ terminator <:+: line := by decide
  have htake : line.take 3 = Tag.value.bytes := by decide
  have hdelivers : Delivers line ⟨.value, []⟩ := (delivers_iff hline).2 ⟨htake, by decide⟩
  refine ⟨hline, by decide, htake, hdelivers, fun hkept => ?_⟩
  obtain ⟨payload, hpayload, hsame⟩ := hkept.delivers .value htake
  have hboth := (hdelivers []).symm.trans (hpayload [])
  obtain rfl : [] = payload := congrArg Frame.payload (Option.some.inj (Prod.mk.inj hboth).1)
  exact absurd hsame (by decide)

end TimingBoard
