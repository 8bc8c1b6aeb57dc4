import TimingBoard.Proofs.Board.Effects
import TimingBoard.Proofs.Frame.Wire
import TimingBoard.Proofs.Reply.Grammar
import TimingBoard.Proofs.Reply.Source
import TimingBoard.Proofs.Request.Line

/-!
# The answers of the board

Replies carry no identification, so client and board stay together only if the board sends exactly
as many lines for a command as the client reads for it.  The client learns the number from the first
line.  Here it is shown that the board keeps to it, for every command and in every state: a verdict
and a single value announce nothing, and a list announces its length.

Two things could break this.  The end of a line inside a stored text would make two lines of one, so
that no stored text may have it, and none gets it.  And a list that is too long to be counted in 64
bits would be announced wrongly, so there must be room for the runs to come.

What is asked of the stored texts comes in two strengths, to be on one line or only not to be
broken. What is said about them holds of every property that goes by the parts between spaces.
-/

namespace TimingBoard

/-- The runs that a command starts: one for a start, and none for any other. -/
def Command.startCount (c : Command) : Nat :=
  if c.verb = .measure ∧ (Text.cutAtSpace c.argument).1 = "START".toList then 1 else 0

namespace Board

/-! ## What the board keeps -/

/-- A board whose texts are on one line. For the times this is no condition: a time that is made,
from a text or from a number, is on one line. -/
structure IsOneLine (b : Board) : Prop where
  timing (key : TimingKey) : Text.IsOneLine (b.timing key).text
  filePrefix : Text.IsOneLine b.filePrefix
  monitor : ∀ m ∈ b.monitor, Text.IsOneLine m.filename
  agents : ∀ a ∈ b.agents, Text.IsOneLine a.mac

/-- A board whose texts all have a property. -/
structure HasTexts (P : Text → Prop) (b : Board) : Prop where
  timing (key : TimingKey) : P (b.timing key).text
  filePrefix : P b.filePrefix
  monitor : ∀ m ∈ b.monitor, P m.filename
  agents : ∀ a ∈ b.agents, P a.mac

/-- A board none of whose texts is broken by the end of a line. -/
def IsUnbroken (b : Board) : Prop :=
  b.HasTexts Text.IsUnbroken

/-- The stored measurements, counting the run in progress. -/
def runCount (b : Board) : Nat :=
  b.measurements.length + b.runningSince.toList.length

/-- A board whose lists can be counted in 64 bits, also after some more runs. -/
structure HasRoomFor (runs : Nat) (b : Board) : Prop where
  agents : b.agents.length < UInt64.size
  measurements : b.runCount + runs < UInt64.size

variable {b : Board} {now : Instant} {line argument : Text} {runs : Nat} {P : Text → Prop}

lemma isOneLine_iff_hasTexts : b.IsOneLine ↔ b.HasTexts Text.IsOneLine :=
  ⟨fun h => ⟨h.timing, h.filePrefix, h.monitor, h.agents⟩,
    fun h => ⟨h.timing, h.filePrefix, h.monitor, h.agents⟩⟩

/-- A board whose texts are on one line has no broken texts. -/
lemma IsOneLine.isUnbroken (h : b.IsOneLine) : b.IsUnbroken :=
  ⟨fun key => (h.timing key).isUnbroken, h.filePrefix.isUnbroken,
    fun m hm => (h.monitor m hm).isUnbroken, fun a ha => (h.agents a ha).isUnbroken⟩

/-- Room for more runs is room for fewer. -/
lemma HasRoomFor.mono {fewer : Nat} (h : HasRoomFor runs b) (hle : fewer ≤ runs) :
    HasRoomFor fewer b :=
  ⟨h.agents, by have := h.measurements; omega⟩

/-- A board with another run and other measurements, but the same settings. -/
structure SameSettings (b b' : Board) : Prop where
  timing (key : TimingKey) : b'.timing key = b.timing key
  filePrefix : b'.filePrefix = b.filePrefix
  autosave : b'.autosave = b.autosave
  format : b'.format = b.format
  monitor : b'.monitor = b.monitor
  agents : b'.agents = b.agents
  mute : b'.mute = b.mute
  noisy : b'.noisy = b.noisy

lemma HasTexts.of_sameSettings {b' : Board} (h : b.HasTexts P) (hsame : SameSettings b b') :
    b'.HasTexts P := by
  refine ⟨fun key => ?_, ?_, ?_, ?_⟩
  · rw [hsame.timing]
    exact h.timing key
  · rw [hsame.filePrefix]
    exact h.filePrefix
  · rw [hsame.monitor]
    exact h.monitor
  · rw [hsame.agents]
    exact h.agents

lemma HasRoomFor.of_sameSettings {b' : Board} (h : b.HasRoomFor runs) (hsame : SameSettings b b')
    (hcount : b'.runCount = b.runCount) : b'.HasRoomFor runs := by
  refine ⟨?_, ?_⟩
  · rw [hsame.agents]
    exact h.agents
  · rw [hcount]
    exact h.measurements

/-- Ending a run stores it and leaves the settings alone. -/
lemma sameSettings_endRun (now : Instant) (b : Board) : SameSettings b (b.endRun now) := by
  unfold endRun
  split <;> exact ⟨fun key => by cases key <;> rfl, rfl, rfl, rfl, rfl, rfl, rfl, rfl⟩

lemma sameSettings_expire (now : Instant) (b : Board) : SameSettings b (b.expire now) := by
  unfold expire
  split
  · exact sameSettings_endRun now b
  · exact ⟨fun _ => rfl, rfl, rfl, rfl, rfl, rfl, rfl, rfl⟩

/-- Ending a run stores it, so that it still counts. -/
@[simp] lemma runCount_endRun (now : Instant) (b : Board) :
    (b.endRun now).runCount = b.runCount := by
  unfold endRun
  split
  · rfl
  · next hrun => simp [runCount, hrun]

@[simp] lemma runCount_expire (now : Instant) (b : Board) :
    (b.expire now).runCount = b.runCount := by
  unfold expire
  split <;> simp

/-! ## Complete answers -/

/-- Frames that answer a command: all of them are on one line, and the first announces how many
follow it. -/
structure IsAnswer (c : Command) (frames : List Frame) : Prop where
  isOneLine : ∀ f ∈ frames, Text.IsOneLine f.payload
  isComplete : ∃ first rest, frames = first :: rest ∧
    rest.length = Reply.followUpCount c first.received

/-- Frames of which the first announces how many follow it. -/
def IsComplete (c : Command) (frames : List Frame) : Prop :=
  ∃ first rest, frames = first :: rest ∧ rest.length = Reply.followUpCount c first.received

/-- Frames that answer a command when they are sent, since none of them is broken. -/
structure IsUnbrokenAnswer (c : Command) (frames : List Frame) : Prop where
  isUnbroken : ∀ f ∈ frames, Text.IsUnbroken f.payload
  isComplete : IsComplete c frames

variable {c : Command}

lemma IsAnswer.isUnbrokenAnswer {frames : List Frame} (h : IsAnswer c frames) :
    IsUnbrokenAnswer c frames :=
  ⟨fun f hf => (h.isOneLine f hf).isUnbroken, h.isComplete⟩

/-- A frame that announces nothing is complete. -/
lemma isComplete_singleton {f : Frame} (hcount : Reply.followUpCount c f.received = 0) :
    IsComplete c [f] :=
  ⟨f, [], rfl, hcount.symm⟩

/-- A verdict announces nothing. -/
lemma followUpCount_of_verdict {f : Frame} (hvalue : f.tag ≠ .value)
    (hmeasurement : f.tag ≠ .measurement) : Reply.followUpCount c f = 0 := by
  unfold Reply.followUpCount
  split
  · next htag => exact absurd htag hvalue
  · next htag => exact absurd htag hmeasurement
  · rfl

lemma isComplete_accepted (c : Command) : IsComplete c accepted :=
  isComplete_singleton (followUpCount_of_verdict (by simp) (by simp))

lemma isComplete_rejected (c : Command) (reason : String) : IsComplete c (rejected reason) :=
  isComplete_singleton (followUpCount_of_verdict (by simp) (by simp))

lemma isAnswer_accepted (c : Command) : IsAnswer c accepted :=
  ⟨by simp [accepted], isComplete_accepted c⟩

lemma isAnswer_rejected (c : Command) {reason : String} (h : Text.IsOneLine reason.toList) :
    IsAnswer c (rejected reason) :=
  ⟨by simpa [rejected] using h, isComplete_rejected c reason⟩

/-! ## Keys -/

/-- The key of a frame that is read is the word its payload was sent with. -/
lemma key_received {word : Text} (hascii : Text.IsAscii word) (hspace : ' ' ∉ word) (tag : Tag)
    (rest : Text) : (Frame.received ⟨tag, word ++ ' ' :: rest⟩).key = word := by
  rw [Frame.key, Frame.received_payload, Text.received_append, hascii.received_eq,
    Text.received_cons_of_ascii (by decide), Text.cutAtSpace_append hspace]

/-- A frame with the key of no list announces nothing, and neither do statistics without a count. -/
lemma followUpCount_of_key {f : Frame} (hagents : f.key ≠ "AGENTS".toList)
    (hlist : f.key ≠ "LST".toList)
    (hstatistics : f.key = "STAT".toList → Payload.statisticsCount? f.payload = none) :
    Reply.followUpCount c f = 0 := by
  unfold Reply.followUpCount
  split
  · rw [if_neg hagents]
  · rw [if_neg hlist]
    split
    · next hkey =>
      rw [hstatistics hkey]
      rfl
    · rfl
  · rfl

/-- A frame that starts with the word of no list announces nothing. -/
lemma followUpCount_of_word {word : Text} (hascii : Text.IsAscii word) (hspace : ' ' ∉ word)
    (hagents : word ≠ "AGENTS".toList) (hlist : word ≠ "LST".toList)
    (hstatistics : word ≠ "STAT".toList) (tag : Tag) (rest : Text) :
    Reply.followUpCount c (Frame.received ⟨tag, word ++ ' ' :: rest⟩) = 0 := by
  have hkey := key_received hascii hspace tag rest
  refine followUpCount_of_key ?_ ?_ ?_
  · rwa [hkey]
  · rwa [hkey]
  · rw [hkey]
    exact fun heq => absurd heq hstatistics

/-- A value that is not the number of agents is complete. -/
lemma isComplete_valueOf {key value : Text} (hascii : Text.IsAscii key) (hspace : ' ' ∉ key)
    (hagents : key ≠ "AGENTS".toList) (hlist : key ≠ "LST".toList)
    (hstatistics : key ≠ "STAT".toList) : IsComplete c (valueOf key value) :=
  isComplete_singleton (followUpCount_of_word hascii hspace hagents hlist hstatistics _ value)

/-- A value that is not the number of agents is an answer by itself. -/
lemma isAnswer_valueOf {key value : Text} (hascii : Text.IsAscii key) (hspace : ' ' ∉ key)
    (hkey : Text.IsOneLine key) (hvalue : Text.IsOneLine value) (hagents : key ≠ "AGENTS".toList)
    (hlist : key ≠ "LST".toList) (hstatistics : key ≠ "STAT".toList) :
    IsAnswer c (valueOf key value) :=
  ⟨by simp [valueOf, hkey, hvalue, Text.isLineBreak],
    isComplete_valueOf hascii hspace hagents hlist hstatistics⟩

/-! ## Changing settings -/

/-- Whatever the argument, a change is accepted or rejected. -/
lemma isAnswer_answerSet (c : Command) (argument : Text) (b : Board) :
    IsAnswer c (b.answerSet argument).1 := by
  rcases answerSet_cases rfl b with ⟨setting, -, hset⟩ | hset | hset
  · rw [hset]
    exact isAnswer_accepted c
  · rw [hset]
    exact isAnswer_rejected c (by decide)
  · rw [hset]
    exact isAnswer_rejected c (by decide)

/-- A time that a setting can take is on one line. -/
lemma isOneLine_of_settableTime? {value : Text} {t : TimeText} (h : settableTime? value = some t) :
    Text.IsOneLine t.text := by
  unfold settableTime? at h
  split at h
  · next hread =>
    split at h
    · obtain rfl := Option.some.inj h
      exact TimeText.isOneLine_of_read hread
    · simp at h
  · simp at h

lemma timing_setTiming (key other : TimingKey) (value : TimeText) (b : Board) :
    (b.setTiming key value).timing other = if other = key then value else b.timing other := by
  cases key <;> cases other <;> rfl

lemma HasTexts.setTiming {key : TimingKey} {value : TimeText} (h : b.HasTexts P)
    (hvalue : P value.text) : (b.setTiming key value).HasTexts P := by
  refine ⟨fun other => ?_, ?_, ?_, ?_⟩
  · rw [timing_setTiming]
    split
    · exact hvalue
    · exact h.timing other
  · cases key <;> exact h.filePrefix
  · cases key <;> exact h.monitor
  · cases key <;> exact h.agents

/-- The file name of a monitor that is read is part of what was read. -/
lemma subset_of_monitor? {value : Text} {m : Monitor} (h : monitor? value = some m) :
    m.filename ⊆ value := by
  unfold monitor? at h
  split at h
  · next save count filename hwords =>
    have hfile : filename ∈ Text.words value := by simp [hwords]
    simp only [bind, Option.bind_eq_some_iff, pure, Option.some.injEq] at h
    obtain ⟨save, -, count, -, rfl⟩ := h
    exact Text.subset_of_mem_words hfile
  · simp at h

/-- Settings that arrive on one line are stored on one line. -/
lemma HasTexts.answerSet (hP : Text.IsSpacewise P) (h : b.HasTexts P)
    (hargument : Text.IsOneLine argument) : (b.answerSet argument).2.HasTexts P := by
  have hvalue : Text.IsOneLine (Text.cutAtSpace argument).2 :=
    hargument.of_subset (Text.cutAtSpace_subset argument).2
  refine of_answerSet h fun setting hread => ?_
  cases setting with
  | timing key value =>
    exact h.setTiming (hP.of_isOneLine (isOneLine_of_settableTime? hread.2))
  | filePrefix name =>
    obtain ⟨-, rfl, -⟩ := hread
    exact ⟨h.timing, hP.of_isOneLine hvalue, h.monitor, h.agents⟩
  | autosave count => exact ⟨h.timing, h.filePrefix, h.monitor, h.agents⟩
  | format number => exact ⟨h.timing, h.filePrefix, h.monitor, h.agents⟩
  | monitor monitor =>
    refine ⟨h.timing, h.filePrefix, fun m hm => ?_, h.agents⟩
    obtain rfl : monitor = some m := hm
    exact hP.of_isOneLine (hvalue.of_subset (subset_of_monitor? hread.2))

/-! ## Reading settings -/

@[simp] lemma spaced_singleton (word : Text) : spaced [word] = word :=
  Text.join_singleton [' '] word

lemma spaced_cons_cons (word next : Text) (more : List Text) :
    spaced (word :: next :: more) = word ++ ' ' :: spaced (next :: more) := by
  rw [spaced, Text.join_cons_cons, List.append_assoc]
  rfl

/-- What goes by the parts between spaces holds of words with spaces between them. -/
lemma forall_spaced (hP : Text.IsSpacewise P) {words : List Text} (h : ∀ w ∈ words, P w) :
    P (spaced words) := by
  induction words with
  | nil => exact hP.of_isOneLine (by decide)
  | cons word more ih =>
    have hmore := ih fun w hw => h w (by simp [hw])
    cases more with
    | nil =>
      rw [spaced_singleton]
      exact h word (by simp)
    | cons next more =>
      rw [spaced_cons_cons]
      exact hP.append (h word (by simp)) hmore

lemma forall_monitorWords (hP : Text.IsSpacewise P) {monitor : Option Monitor}
    (h : ∀ m ∈ monitor, P m.filename) : P (monitorWords monitor) := by
  cases monitor with
  | none => exact hP.of_isOneLine (by decide)
  | some m =>
    refine forall_spaced hP ?_
    simp only [List.forall_mem_cons]
    exact ⟨hP.of_isOneLine (Natural.isOneLine_digits _),
      hP.of_isOneLine (Natural.isOneLine_digits _), h m rfl, by simp⟩

lemma isOneLine_monitorWords {monitor : Option Monitor}
    (h : ∀ m ∈ monitor, Text.IsOneLine m.filename) : Text.IsOneLine (monitorWords monitor) :=
  forall_monitorWords Text.isSpacewise_isOneLine h

/-- The announced number of agents is the one that was counted. -/
lemma announced_agents {n : Nat} (hn : n < UInt64.size) :
    Reply.announced? (Payload.agents? ("AGENTS".toList ++ ' ' :: Natural.digits n)) = some n := by
  have hcount : Payload.agents? ("AGENTS".toList ++ ' ' :: Natural.digits n) =
      some (Natural.digits n) :=
    Payload.agents?_eq_some.2 (Payload.startsWithRun_append "AGENTS " (Payload.consists_digits n))
  rw [Reply.announced?, hcount]
  exact Natural.read?_digits hn

/-- The list of agents announces its length. -/
lemma isComplete_agents (hcount : b.agents.length < UInt64.size) (hc : c.verb = .get) :
    IsComplete c (valueOf "AGENTS".toList (Natural.digits b.agents.length) ++
      b.agents.map agentFrame) := by
  have hascii : Text.IsAscii "AGENTS".toList := by decide
  have hspace : ' ' ∉ "AGENTS".toList := by decide
  have hpayload : Text.received ("AGENTS".toList ++ ' ' :: Natural.digits b.agents.length) =
      "AGENTS".toList ++ ' ' :: Natural.digits b.agents.length := by
    rw [Text.received_append, hascii.received_eq, Text.received_cons_of_ascii (by decide),
      (Natural.isAscii_digits _).received_eq]
  refine ⟨_, b.agents.map agentFrame, rfl, ?_⟩
  rw [Reply.followUpCount, hc]
  simp only [Frame.received_tag]
  rw [key_received hascii hspace, if_pos rfl, Frame.received_payload, hpayload,
    announced_agents hcount, List.length_map]
  rfl

/-- Every request for a setting has a complete answer. -/
lemma isComplete_answerGet (hcount : b.agents.length < UInt64.size) (hc : c.verb = .get) :
    IsComplete c (b.answerGet argument) := by
  have hvalue {key value : Text} (hkey : Text.IsAscii key ∧ ' ' ∉ key ∧ key ≠ "AGENTS".toList ∧
      key ≠ "LST".toList ∧ key ≠ "STAT".toList) : IsComplete c (valueOf key value) :=
    isComplete_valueOf hkey.1 hkey.2.1 hkey.2.2.1 hkey.2.2.2.1 hkey.2.2.2.2
  unfold answerGet
  split
  · next key hkey =>
    have hfound := List.find?_some hkey
    obtain rfl : key.word = argument := eq_of_beq hfound
    exact hvalue (by cases key <;> decide)
  split
  · next hkey => exact hkey ▸ hvalue (by decide)
  split
  · next hkey => exact hkey ▸ hvalue (by decide)
  split
  · next hkey => exact hkey ▸ hvalue (by decide)
  split
  · next hkey => exact hkey ▸ hvalue (by decide)
  split
  · next hkey => exact hkey ▸ isComplete_agents hcount hc
  · exact isComplete_rejected c _

/-- A value is as its text is. -/
lemma forall_valueOf (hP : Text.IsSpacewise P) {key value : Text} (hkey : Text.IsOneLine key)
    (hvalue : P value) : ∀ f ∈ valueOf key value, P f.payload := by
  intro f hf
  rw [List.mem_singleton.1 hf]
  exact hP.append (hP.of_isOneLine hkey) hvalue

/-- What is answered about the settings is as the texts of the board are. -/
lemma forall_answerGet (hP : Text.IsSpacewise P) (h : b.HasTexts P) :
    ∀ f ∈ b.answerGet argument, P f.payload := by
  have hdigits (n : Nat) : P (Natural.digits n) := hP.of_isOneLine (Natural.isOneLine_digits n)
  unfold answerGet
  split
  · next key hkey =>
    have hfound := List.find?_some hkey
    obtain rfl : key.word = argument := eq_of_beq hfound
    exact forall_valueOf hP (by cases key <;> decide) (h.timing key)
  split
  · next hkey =>
    refine forall_valueOf hP (hkey ▸ by decide) ?_
    split
    · exact hP.of_isOneLine (by decide)
    · exact h.filePrefix
  split
  · next hkey => exact forall_valueOf hP (hkey ▸ by decide) (hdigits _)
  split
  · next hkey => exact forall_valueOf hP (hkey ▸ by decide) (hdigits _)
  split
  · next hkey => exact forall_valueOf hP (hkey ▸ by decide) (forall_monitorWords hP h.monitor)
  split
  · next hkey =>
    intro f hf
    rcases List.mem_append.1 hf with hfirst | hagent
    · exact forall_valueOf hP (hkey ▸ by decide) (hdigits _) f hfirst
    · obtain ⟨a, ha, rfl⟩ := List.mem_map.1 hagent
      refine forall_spaced hP ?_
      simp only [List.forall_mem_cons]
      exact ⟨hP.of_isOneLine (by decide), hdigits _, h.agents a ha, by simp⟩
  · intro f hf
    rw [List.mem_singleton.1 hf]
    exact hP.of_isOneLine (by decide)

/-! ## Measurements -/

/-- Words that are on one line make a frame on one line. -/
lemma isOneLine_dataFrame {words : List Text} (h : ∀ w ∈ words, Text.IsOneLine w) :
    Text.IsOneLine (dataFrame words).payload :=
  Text.forall_mem_join (by decide) h

/-- A status announces nothing. -/
lemma isAnswer_status (c : Command) {word : Text} (h : Text.IsOneLine word) :
    IsAnswer c [dataFrame ["STATUS".toList, word]] := by
  refine ⟨List.forall_mem_singleton.2 (isOneLine_dataFrame ?_), isComplete_singleton ?_⟩
  · simp only [List.forall_mem_cons]
    exact ⟨by decide, h, by simp⟩
  · rw [dataFrame, spaced_cons_cons]
    exact followUpCount_of_word (by decide) (by decide) (by decide) (by decide) (by decide) _ _

/-- The announced number of measurements is the one that was counted. -/
lemma announced_measurements {n : Nat} (hn : n < UInt64.size) :
    Reply.announced? (Payload.measurementCount?
      ("LST".toList ++ ' ' :: ("NUM".toList ++ ' ' :: Natural.digits n))) = some n := by
  have hcount : Payload.measurementCount?
      ("LST".toList ++ ' ' :: ("NUM".toList ++ ' ' :: Natural.digits n)) =
        some (Natural.digits n) :=
    Payload.measurementCount?_eq_some.2
      (Payload.startsWithRun_append "LST NUM " (Payload.consists_digits n))
  rw [Reply.announced?, hcount]
  exact Natural.read?_digits hn

/-- The list of measurements announces its length. -/
lemma isAnswer_measurements (hcount : b.measurements.length < UInt64.size)
    (hc : c.verb = .measure) :
    IsAnswer c (dataFrame ["LST".toList, "NUM".toList, Natural.digits b.measurements.length] ::
      b.measurements.mapIdx measurementFrame) := by
  refine ⟨?_, _, b.measurements.mapIdx measurementFrame, rfl, ?_⟩
  · intro f hf
    rcases List.mem_cons.1 hf with rfl | hmeasurement
    · refine isOneLine_dataFrame ?_
      simp only [List.forall_mem_cons]
      exact ⟨by decide, by decide, Natural.isOneLine_digits _, by simp⟩
    · obtain ⟨place, hplace, rfl⟩ := List.mem_mapIdx.1 hmeasurement
      refine isOneLine_dataFrame ?_
      simp only [List.forall_mem_cons]
      exact ⟨by decide, Natural.isOneLine_digits _, Natural.isOneLine_digits _, by simp⟩
  · have hpayload : spaced ["LST".toList, "NUM".toList, Natural.digits b.measurements.length] =
        "LST".toList ++ ' ' :: ("NUM".toList ++ ' ' :: Natural.digits b.measurements.length) := by
      rw [spaced_cons_cons, spaced_cons_cons, spaced_singleton]
    have hascii : Text.IsAscii
        ("LST".toList ++ ' ' :: ("NUM".toList ++ ' ' :: Natural.digits b.measurements.length)) := by
      simp [Natural.isAscii_digits]
    rw [Reply.followUpCount, hc, dataFrame, hpayload]
    simp only [Frame.received_tag]
    rw [key_received (by decide) (by decide), if_pos rfl, Frame.received_payload,
      hascii.received_eq, announced_measurements hcount, List.length_mapIdx]
    rfl

/-- Statistics that start with a number announce no lines. -/
lemma statisticsCount?_eq_none {rest : Text} (h : ∀ c ∈ rest.head?, c ≠ 'N') :
    Payload.statisticsCount? ("STAT".toList ++ ' ' :: rest) = none := by
  have hstart : Payload.after? "STAT NUM " ("STAT".toList ++ ' ' :: rest) = none := by
    refine Option.eq_none_iff_forall_ne_some.2 fun lines hlines => ?_
    have happend := List.isPrefixOf?_eq_some_iff_append_eq.1 hlines
    obtain rfl : "NUM ".toList ++ lines = rest := by simpa using happend
    exact h 'N' rfl rfl
  rw [Payload.statisticsCount?, hstart]
  rfl

/-- The payload of a statistics frame begins with the key and the starts. -/
lemma payload_statisticsFrame (starts : UInt32) : ∃ rest, (statisticsFrame starts).payload =
    "STAT".toList ++ ' ' :: (Natural.digits starts.toNat ++ ' ' :: rest) :=
  ⟨_, by rw [statisticsFrame, dataFrame, List.cons_append, List.cons_append, spaced_cons_cons,
    List.cons_append, spaced_cons_cons]⟩

/-- The statistics of one measurement have no count in front. -/
lemma statisticsCount?_statisticsFrame (starts : UInt32) :
    Payload.statisticsCount? (statisticsFrame starts).payload = none := by
  obtain ⟨rest, hpayload⟩ := payload_statisticsFrame starts
  rw [hpayload]
  refine statisticsCount?_eq_none fun a ha => ?_
  obtain ⟨d, rest', hdigits⟩ := List.exists_cons_of_ne_nil (Natural.digits_ne_nil starts.toNat)
  rw [hdigits] at ha
  obtain rfl : d = a := by simpa using ha
  have hdigit := Natural.isDigit_of_mem_digits (n := starts.toNat) (c := d) (by simp [hdigits])
  rintro rfl
  simp at hdigit

/-- The statistics of one measurement announce nothing. -/
lemma isAnswer_statistics (c : Command) (starts : UInt32) :
    IsAnswer c [statisticsFrame starts] := by
  have hwords {P : Text → Prop} (hname : P "STAT".toList) (hwindow : P "20".toList)
      (hdigits : ∀ n, P (Natural.digits n)) :
      ∀ w ∈ ["STAT".toList, Natural.digits starts.toNat, "20".toList] ++
        (List.range 8).map (fun channel => Natural.digits (starts.toNat / (channel + 1))), P w := by
    intro w hw
    rcases List.mem_append.1 hw with hhead | hchannel
    · simp only [List.mem_cons, List.not_mem_nil, or_false] at hhead
      rcases hhead with rfl | rfl | rfl
      exacts [hname, hdigits _, hwindow]
    · obtain ⟨channel, -, rfl⟩ := List.mem_map.1 hchannel
      exact hdigits _
  have hline := isOneLine_dataFrame
    (hwords (P := Text.IsOneLine) (by decide) (by decide) Natural.isOneLine_digits)
  have hascii : Text.IsAscii (statisticsFrame starts).payload := Text.forall_mem_join (by decide)
    (hwords (P := Text.IsAscii) (by decide) (by decide) Natural.isAscii_digits)
  refine ⟨List.forall_mem_singleton.2 hline, isComplete_singleton ?_⟩
  obtain ⟨rest, hpayload⟩ := payload_statisticsFrame starts
  have hkey : (statisticsFrame starts).received.key = "STAT".toList := by
    rw [Frame.key, Frame.received_payload, hascii.received_eq, hpayload,
      Text.cutAtSpace_append (by decide)]
  refine followUpCount_of_key (by rw [hkey]; decide) (by rw [hkey]; decide) fun _ => ?_
  rw [Frame.received_payload, hascii.received_eq]
  exact statisticsCount?_statisticsFrame starts

/-- Every command about measurements has a complete answer. -/
lemma isAnswer_answerMeasure (hcount : b.measurements.length < UInt64.size)
    (hc : c.verb = .measure) :
    IsAnswer c (b.answerMeasure now argument).1 := by
  have hmeasures := measures_answerMeasure now argument b
  generalize b.answerMeasure now argument = answer at hmeasures ⊢
  cases hmeasures with
  | started => exact isAnswer_accepted c
  | stopped => exact isAnswer_accepted c
  | status =>
    refine isAnswer_status c ?_
    split <;> decide
  | listed => exact isAnswer_measurements hcount hc
  | statistics => exact isAnswer_statistics c _
  | saved => exact isAnswer_accepted c
  | deleted => exact isAnswer_accepted c
  | cleared => exact isAnswer_accepted c
  | rejected hreason =>
    have hline : ∀ reason ∈ measureReasons, Text.IsOneLine reason.toList := by decide
    exact isAnswer_rejected c (hline _ hreason)

/-! ## Measurements and the board -/

/-- What is done to runs and measurements leaves the settings alone. -/
lemma sameSettings_answerMeasure (now : Instant) (argument : Text) (b : Board) :
    SameSettings b (b.answerMeasure now argument).2 := by
  have hrefl : SameSettings b b := ⟨fun _ => rfl, rfl, rfl, rfl, rfl, rfl, rfl, rfl⟩
  have hruns (measurements : List UInt32) (since : Option Instant) :
      SameSettings b { b with measurements := measurements, runningSince := since } :=
    ⟨fun key => by cases key <;> rfl, rfl, rfl, rfl, rfl, rfl, rfl, rfl⟩
  have hmeasures := measures_answerMeasure now argument b
  generalize b.answerMeasure now argument = answer at hmeasures ⊢
  cases hmeasures with
  | started => exact hruns _ _
  | stopped => exact sameSettings_endRun now b
  | deleted => exact hruns _ _
  | cleared => exact hruns _ _
  | _ => exact hrefl

/-- Only the key `START` starts a run. -/
lemma runCount_answerMeasure (now : Instant) (argument : Text) (b : Board) :
    (b.answerMeasure now argument).2.runCount ≤
      b.runCount + if (Text.cutAtSpace argument).1 = "START".toList then 1 else 0 := by
  have hmeasures := measures_answerMeasure now argument b
  generalize b.answerMeasure now argument = answer at hmeasures ⊢
  cases hmeasures with
  | started hkey hidle => simp [runCount, hkey, hidle]
  | @deleted place =>
    have hlength := List.length_eraseIdx_le b.measurements place
    simp only [runCount]
    omega
  | cleared =>
    simp only [runCount, List.length_nil]
    omega
  | _ => simp

/-! ## What no command changes -/

/-- A board with the same agents that is as mute and as noisy. -/
structure SameSetup (b b' : Board) : Prop where
  agents : b'.agents = b.agents
  mute : b'.mute = b.mute
  noisy : b'.noisy = b.noisy

lemma SameSetup.refl (b : Board) : SameSetup b b :=
  ⟨rfl, rfl, rfl⟩

lemma SameSetup.trans {b₁ b₂ b₃ : Board} (h : SameSetup b₁ b₂) (h' : SameSetup b₂ b₃) :
    SameSetup b₁ b₃ :=
  ⟨h'.agents.trans h.agents, h'.mute.trans h.mute, h'.noisy.trans h.noisy⟩

lemma SameSettings.sameSetup {b b' : Board} (h : SameSettings b b') : SameSetup b b' :=
  ⟨h.agents, h.mute, h.noisy⟩

/-- A change of settings touches neither the runs nor the setup of the board. -/
lemma sameSetup_answerSet (argument : Text) (b : Board) :
    SameSetup b (b.answerSet argument).2 ∧ (b.answerSet argument).2.runCount = b.runCount := by
  refine of_answerSet (P := fun b' => SameSetup b b' ∧ b'.runCount = b.runCount) ⟨.refl b, rfl⟩
    fun setting _ => ?_
  cases setting with
  | timing key value => cases key <;> exact ⟨⟨rfl, rfl, rfl⟩, rfl⟩
  | _ => exact ⟨⟨rfl, rfl, rfl⟩, rfl⟩

/-! ## Lines -/

/-- The line of a command is answered by its verb. -/
lemma answer_line (now : Instant) (c : Command) (b : Board) :
    b.answer now c.line =
      match c.verb with
      | .set => b.answerSet c.argument
      | .get => (b.answerGet c.argument, b)
      | .measure => b.answerMeasure now c.argument
      | .extend => (accepted, b) := by
  unfold answer
  rw [c.cutAtSpace_line]
  simp only [Verb.ofWord?_word]
  cases c.verb <;> rfl

/-- There is room for the measurements that are stored. -/
lemma HasRoomFor.length_measurements (h : b.HasRoomFor runs) :
    b.measurements.length < UInt64.size := by
  have hroom := h.measurements
  rw [runCount] at hroom
  omega

lemma isComplete_answer (hroom : b.HasRoomFor runs) (now : Instant) (c : Command) :
    IsComplete c (b.answer now c.line).1 := by
  rw [answer_line]
  split
  · exact (isAnswer_answerSet c _ b).isComplete
  · next hverb => exact isComplete_answerGet hroom.agents hverb
  · next hverb => exact (isAnswer_answerMeasure hroom.length_measurements hverb).isComplete
  · exact isComplete_accepted c

lemma forall_answer (hP : Text.IsSpacewise P) (h : b.HasTexts P) (hroom : b.HasRoomFor runs)
    (now : Instant) (c : Command) : ∀ f ∈ (b.answer now c.line).1, P f.payload := by
  have hanswer {frames : List Frame} (h : IsAnswer c frames) : ∀ f ∈ frames, P f.payload :=
    fun f hf => hP.of_isOneLine (h.isOneLine f hf)
  rw [answer_line]
  split
  · exact hanswer (isAnswer_answerSet c _ b)
  · exact forall_answerGet hP h
  · next hverb => exact hanswer (isAnswer_answerMeasure hroom.length_measurements hverb)
  · exact hanswer (isAnswer_accepted c)

/-- The board when it answers a line: the line is noted, and a run that is over is ended. -/
def prepared (now : Instant) (line : Text) (b : Board) : Board :=
  { b with received := b.received ++ [line] }.expire now

/-- The line of a command is answered by its verb, once the board is prepared for it. -/
lemma handle_line (now : Instant) (c : Command) (b : Board) :
    b.handle now c.line =
      match c.verb with
      | .set => (b.prepared now c.line).answerSet c.argument
      | .get => ((b.prepared now c.line).answerGet c.argument, b.prepared now c.line)
      | .measure => (b.prepared now c.line).answerMeasure now c.argument
      | .extend => (accepted, b.prepared now c.line) :=
  answer_line now c (b.prepared now c.line)

lemma sameSettings_prepared (now : Instant) (line : Text) (b : Board) :
    SameSettings b (b.prepared now line) := by
  have hsame := sameSettings_expire now { b with received := b.received ++ [line] }
  exact ⟨hsame.timing, hsame.filePrefix, hsame.autosave, hsame.format, hsame.monitor, hsame.agents,
    hsame.mute, hsame.noisy⟩

lemma runCount_prepared (now : Instant) (line : Text) (b : Board) :
    (b.prepared now line).runCount = b.runCount := by
  rw [prepared, runCount_expire]
  rfl

lemma HasRoomFor.prepared (h : b.HasRoomFor runs) (now : Instant) (line : Text) :
    (b.prepared now line).HasRoomFor runs :=
  h.of_sameSettings (sameSettings_prepared now line b) (runCount_prepared now line b)

/-- The board answers every command with as many frames as the first of them announces. -/
lemma isComplete_handle (hroom : b.HasRoomFor runs) (now : Instant) (c : Command) :
    IsComplete c (b.handle now c.line).1 :=
  isComplete_answer (hroom.prepared now c.line) now c

/-- What the board answers is as its texts are. -/
lemma forall_handle (hP : Text.IsSpacewise P) (h : b.HasTexts P) (hroom : b.HasRoomFor runs)
    (now : Instant) (c : Command) : ∀ f ∈ (b.handle now c.line).1, P f.payload :=
  forall_answer hP (h.of_sameSettings (sameSettings_prepared now c.line b))
    (hroom.prepared now c.line) now c

lemma isUnbrokenAnswer_handle (h : b.IsUnbroken) (hroom : b.HasRoomFor runs) (now : Instant)
    (c : Command) : IsUnbrokenAnswer c (b.handle now c.line).1 :=
  ⟨forall_handle Text.isSpacewise_isUnbroken h hroom now c, isComplete_handle hroom now c⟩

/-- A command stores texts that are on one line. -/
lemma HasTexts.handle (hP : Text.IsSpacewise P) (h : b.HasTexts P) (now : Instant) (c : Command) :
    (b.handle now c.line).2.HasTexts P := by
  have hprepared := h.of_sameSettings (sameSettings_prepared now c.line b)
  rw [handle_line]
  split
  · exact hprepared.answerSet hP c.isOneLine_argument
  · exact hprepared
  · exact hprepared.of_sameSettings (sameSettings_answerMeasure _ _ _)
  · exact hprepared

lemma IsOneLine.handle (h : b.IsOneLine) (now : Instant) (c : Command) :
    (b.handle now c.line).2.IsOneLine :=
  isOneLine_iff_hasTexts.2
    ((isOneLine_iff_hasTexts.1 h).handle Text.isSpacewise_isOneLine now c)

/-- A command changes nothing about the setup of the board, and starts as many runs as it says. -/
lemma sameSetup_handle (now : Instant) (c : Command) (b : Board) :
    SameSetup b (b.handle now c.line).2 ∧
      (b.handle now c.line).2.runCount ≤ b.runCount + c.startCount := by
  have hprepared := (sameSettings_prepared now c.line b).sameSetup
  have hcount := runCount_prepared now c.line b
  rw [handle_line]
  split
  · obtain ⟨hsetup, hruns⟩ := sameSetup_answerSet c.argument (b.prepared now c.line)
    exact ⟨hprepared.trans hsetup, by omega⟩
  · exact ⟨hprepared, by simp only; omega⟩
  · next hverb =>
    have hruns := runCount_answerMeasure now c.argument (b.prepared now c.line)
    rw [hcount] at hruns
    refine ⟨hprepared.trans (sameSettings_answerMeasure _ _ _).sameSetup, ?_⟩
    simpa [Command.startCount, hverb] using hruns
  · exact ⟨hprepared, by simp only; omega⟩

/-- A command takes up room for the runs that it starts. -/
lemma HasRoomFor.handle {c : Command} (h : b.HasRoomFor (runs + c.startCount)) (now : Instant) :
    (b.handle now c.line).2.HasRoomFor runs := by
  obtain ⟨hsetup, hcount⟩ := sameSetup_handle now c b
  refine ⟨?_, ?_⟩
  · rw [hsetup.agents]
    exact h.agents
  · have := h.measurements
    omega

end Board

end TimingBoard
