import TimingBoard.Proofs.Reply.Shown
import TimingBoard.Proofs.Reply.Source

/-!
# What the first frame decides

The first frame of a reply decides it, unless it announces a list.  Here the decision is a table in
terms of what the payload shows: which frames reject a command, accept it or cannot answer it, which
payloads are malformed, and what the others amount to.

Each row of the table is what the decoder does without a look at the source of further frames, and
where no row applies a list is announced.
-/

namespace TimingBoard

namespace Reply

open Payload

/-! ## Announcements -/

/-- The lists that come as an announced number of frames. -/
inductive Listing where
  | agents
  | measurements
  | statistics
  deriving DecidableEq

namespace Listing

/-- The verb of the commands that a list answers. -/
def verb : Listing → Verb
  | .agents => .get
  | .measurements | .statistics => .measure

/-- The tag of the frame that announces a list. -/
def tag : Listing → Tag
  | .agents => .value
  | .measurements | .statistics => .measurement

/-- What stands in front of the announced number. -/
def start : Listing → String
  | .agents => "AGENTS "
  | .measurements => "LST NUM "
  | .statistics => "STAT NUM "

/-- The first word of the frame that announces a list. -/
def word : Listing → Text
  | .agents => "AGENTS".toList
  | .measurements => "LST".toList
  | .statistics => "STAT".toList

/-- The run of digits that announces a list. -/
def count? : Listing → Text → Option Text
  | .agents => agents?
  | .measurements => measurementCount?
  | .statistics => statisticsCount?

lemma count?_eq_some (l : Listing) {payload run : Text} : l.count? payload = some run ↔
    StartsWithRun Text.isDecimalDigit l.start payload run := by
  cases l with
  | agents => exact agents?_eq_some
  | measurements => exact measurementCount?_eq_some
  | statistics => exact statisticsCount?_eq_some

/-- The number of a list stands behind its word. -/
lemma key_eq (l : Listing) {p : Char → Bool} {f : Frame} {run : Text}
    (h : StartsWithRun p l.start f.payload run) : f.key = l.word := by
  obtain ⟨rest, hpayload, -, -⟩ := h
  cases l with
  | agents => exact (key_eq_iff (by decide)).2 (Or.inr ⟨_, hpayload⟩)
  | measurements =>
    exact (key_eq_iff (by decide)).2 (Or.inr ⟨"NUM ".toList ++ (run ++ rest), hpayload⟩)
  | statistics =>
    exact (key_eq_iff (by decide)).2 (Or.inr ⟨"NUM ".toList ++ (run ++ rest), hpayload⟩)

end Listing

variable {σ : Type} {c : Command} {f : Frame} {l : Listing} {n : Nat}

/-- The first frame of a reply announces a list of a length that fits 64 bits. -/
structure Announces (c : Command) (f : Frame) (l : Listing) (n : Nat) : Prop where
  verb_eq : c.verb = l.verb
  tag_eq : f.tag = l.tag
  count : ∃ run, StartsWithRun Text.isDecimalDigit l.start f.payload run ∧
    Natural.read? UInt64.size run = some n

/-- An announcement stands behind the word of its list. -/
lemma Announces.key_eq (h : Announces c f l n) : f.key = l.word := by
  obtain ⟨-, -, run, hstart, -⟩ := h
  exact l.key_eq hstart

lemma announced?_eq_some : announced? (l.count? f.payload) = some n ↔
    ∃ run, StartsWithRun Text.isDecimalDigit l.start f.payload run ∧
      Natural.read? UInt64.size run = some n := by
  simp only [announced?, Option.bind_eq_some_iff, l.count?_eq_some]

/-! ## The table -/

/-- The frame carries a value, and one was asked for. -/
structure IsValue (c : Command) (f : Frame) : Prop where
  verb_eq : c.verb = .get
  tag_eq : f.tag = .value

/-- The frame carries measurement data, and the command is about measurements. -/
structure IsData (c : Command) (f : Frame) : Prop where
  verb_eq : c.verb = .measure
  tag_eq : f.tag = .measurement

/-- Frames that do not answer a verb: a change is only accepted or rejected, a question is not
accepted, and measurements are not values. -/
def CannotAnswer (tag : Tag) (verb : Verb) : Prop :=
  verb = .set ∧ (tag = .value ∨ tag = .measurement) ∨
    verb = .get ∧ (tag = .accepted ∨ tag = .measurement) ∨ verb = .measure ∧ tag = .value

/-- The first words of the payloads that are understood as values. -/
def settingWords : List Text :=
  ["TT", "ST", "TD", "PREFIX", "AUTOSAVE", "MONITOR", "AGENTS"].map String.toList

/-- A payload breaks the grammar of its first word, or its numbers do not fit. -/
inductive IsMalformed (c : Command) (f : Frame) : Prop
  /-- Nothing is shown behind the word of a setting, and no agents are announced. -/
  | value : IsValue c f → f.key ∈ settingWords → (∀ reply, ¬ ShowsSetting f.payload reply) →
      (∀ n, ¬ Announces c f .agents n) → IsMalformed c f
  /-- A number of lines is announced that does not fit 64 bits. -/
  | count {l : Listing} {run : Text} : IsData c f → l.tag = .measurement →
      StartsWithRun Text.isDecimalDigit l.start f.payload run →
        Natural.read? UInt64.size run = none → IsMalformed c f

/-- What the first frame alone makes of a command. -/
inductive Judges (c : Command) (f : Frame) : Except Error Reply → Prop
  /-- Nothing is expected of the answer to an extension. -/
  | uninterpreted : c.verb = .extend → Judges c f (.ok .empty)
  | rejected : c.verb ≠ .extend → f.tag = .rejected → Judges c f (.error (.rejected c f.payload))
  | cannotAnswer : CannotAnswer f.tag c.verb → Judges c f (.error (.unexpectedFrame c f))
  | accepted : c.verb = .set ∨ c.verb = .measure → f.tag = .accepted → Judges c f (.ok .ack)
  | malformed : IsMalformed c f → Judges c f (.error (.malformed c f))
  | setting {reply : Reply} : IsValue c f → ShowsSetting f.payload reply → Judges c f (.ok reply)
  | otherSetting : IsValue c f → f.key ∉ settingWords → Judges c f (.ok .empty)
  | status {text : Text} : IsData c f → ShowsStatus f.payload text → Judges c f (.ok (.status text))
  /-- A list without a number is empty. -/
  | noList : IsData c f → f.key = "LST".toList →
      (∀ run, ¬ StartsWithRun Text.isDecimalDigit "LST NUM " f.payload run) →
        Judges c f (.ok (.measurements []))
  /-- Statistics without a number are one line. -/
  | oneLine {line : Statistics} : IsData c f → f.key = "STAT".toList →
      (∀ run, ¬ StartsWithRun Text.isDecimalDigit "STAT NUM " f.payload run) →
        StandsFor ShowsStatistics ⟨List.replicate 10 0, by decide⟩ f.payload line →
          Judges c f (.ok (.statistics line))
  | otherData : IsData c f → f.key ∉ ["STATUS", "LST", "STAT"].map String.toList →
      Judges c f (.ok .empty)

/-! ## Values -/

variable (next : Call σ Frame)

lemma decode_of_isValue (h : IsValue c f) : decode next c f = decodeValue next c f := by
  rw [decode, h.verb_eq, h.tag_eq]

lemma decode_of_isData (h : IsData c f) : decode next c f = decodeMeasurement next c f := by
  rw [decode, h.verb_eq, h.tag_eq]

/-- The reader of the value behind a word, if it stands for a setting with a value. -/
def reader? (word : Text) : Option (Text → Option Reply) :=
  if (TimingKey.ofWord? word).isSome then some timing?
  else if word = "PREFIX".toList then some filePrefix?
  else if word = "AUTOSAVE".toList then some autosave?
  else if word = "MONITOR".toList then some monitor?
  else none

lemma decodeValue_of_reader {read : Text → Option Reply} (h : reader? f.key = some read) :
    decodeValue next c f = Call.ofExcept (orMalformed c f (read f.payload)) := by
  unfold reader? at h
  unfold decodeValue
  simp only
  split_ifs at h with htiming hfile hautosave hmonitor
  all_goals obtain rfl := Option.some.inj h
  · rw [if_pos htiming]
  · rw [if_neg htiming, if_pos hfile]
  · rw [if_neg htiming, if_neg hfile, if_pos hautosave]
  · rw [if_neg htiming, if_neg hfile, if_neg hautosave, if_pos hmonitor]

lemma decodeValue_of_agents (h : f.key = "AGENTS".toList) : decodeValue next c f = do
    let count ← Call.ofExcept (orMalformed c f (announced? (agents? f.payload)))
    let agents ← followUps next readAgent? count
    return .agents (agents.filterMap id) := by
  unfold decodeValue
  simp only [h]
  rw [if_neg (by decide), if_neg (by decide), if_neg (by decide), if_neg (by decide),
    if_pos trivial]

lemma isSome_ofWord?_iff {word : Text} :
    (TimingKey.ofWord? word).isSome ↔ ∃ key : TimingKey, word = key.word := by
  simp only [Option.isSome_iff_exists, ofWord?_eq_some]

/-- The words that are understood are those with a reader, and the one that announces agents. -/
lemma mem_settingWords_iff {word : Text} :
    word ∈ settingWords ↔ (reader? word).isSome ∨ word = "AGENTS".toList := by
  constructor
  · intro h
    simp only [settingWords, List.map_cons, List.map_nil, List.mem_cons, List.not_mem_nil,
      or_false] at h
    rcases h with rfl | rfl | rfl | rfl | rfl | rfl | rfl <;> decide
  · rintro (h | rfl)
    · unfold reader? at h
      split_ifs at h with htiming hfile hautosave hmonitor
      · obtain ⟨key, rfl⟩ := isSome_ofWord?_iff.1 htiming
        cases key <;> decide
      · rw [hfile]; decide
      · rw [hautosave]; decide
      · rw [hmonitor]; decide
      · cases h
    · decide

lemma decodeValue_of_other (h : f.key ∉ settingWords) : decodeValue next c f = pure .empty := by
  rw [mem_settingWords_iff, not_or] at h
  obtain ⟨hreader, hagents⟩ := h
  have hnone : reader? f.key = none := by simpa using hreader
  unfold reader? at hnone
  split_ifs at hnone with htiming hfile hautosave hmonitor
  unfold decodeValue
  simp only
  rw [if_neg htiming, if_neg hfile, if_neg hautosave, if_neg hmonitor, if_neg hagents]

/-- The reader of the first word finds exactly the values that are shown. -/
lemma showsSetting_iff {reply : Reply} : ShowsSetting f.payload reply ↔
    ∃ read, reader? f.key = some read ∧ read f.payload = some reply := by
  constructor
  · intro h
    have hkey := h.key_eq
    rw [hkey]
    cases h with
    | @timing key _ _ _ hstart hx hfinite =>
      refine ⟨timing?, if_pos ?_, timing?_eq_some.2 ⟨_, _, rfl, .timing hstart hx hfinite⟩⟩
      exact isSome_ofWord?_iff.2 ⟨key, rfl⟩
    | filePrefix hstart =>
      exact ⟨filePrefix?, rfl, filePrefix?_eq_some.2 ⟨_, rfl, .filePrefix hstart⟩⟩
    | autosave hstart hcount =>
      exact ⟨autosave?, rfl, autosave?_eq_some.2 ⟨_, rfl, .autosave hstart hcount⟩⟩
    | monitor hstart hsave hcount =>
      exact ⟨monitor?, rfl, monitor?_eq_some.2 ⟨_, rfl, .monitor hstart hsave hcount⟩⟩
  · rintro ⟨read, hread, hsome⟩
    unfold reader? at hread
    split_ifs at hread
    all_goals obtain rfl := Option.some.inj hread
    · obtain ⟨_, _, -, hshows⟩ := timing?_eq_some.1 hsome
      exact hshows
    · obtain ⟨_, -, hshows⟩ := filePrefix?_eq_some.1 hsome
      exact hshows
    · obtain ⟨_, -, hshows⟩ := autosave?_eq_some.1 hsome
      exact hshows
    · obtain ⟨_, -, hshows⟩ := monitor?_eq_some.1 hsome
      exact hshows

/-! ## Measurement data -/

lemma decodeMeasurement_of_status (h : f.key = "STATUS".toList) :
    decodeMeasurement next c f = pure (.status (f.payload.drop 7)) := by
  unfold decodeMeasurement
  simp only [h]
  rw [if_pos trivial]

lemma decodeMeasurement_of_list (h : f.key = "LST".toList) : decodeMeasurement next c f =
    match measurementCount? f.payload with
    | none => pure (.measurements [])
    | some run => do
      let count ← Call.ofExcept (orMalformed c f (announced? (some run)))
      return .measurements (← followUps next readMeasurement count) := by
  unfold decodeMeasurement
  simp only [h]
  rw [if_neg (by decide)]
  exact if_pos trivial

lemma decodeMeasurement_of_statistics (h : f.key = "STAT".toList) : decodeMeasurement next c f =
    match statisticsCount? f.payload with
    | none => pure (.statistics (readStatistics f))
    | some run => do
      let count ← Call.ofExcept (orMalformed c f (announced? (some run)))
      return .statisticsList (← followUps next readStatistics count) := by
  unfold decodeMeasurement
  simp only [h]
  rw [if_neg (by decide), if_neg (by decide)]
  exact if_pos trivial

lemma decodeMeasurement_of_other (h : f.key ∉ ["STATUS", "LST", "STAT"].map String.toList) :
    decodeMeasurement next c f = pure .empty := by
  simp only [List.map_cons, List.map_nil, List.mem_cons, List.not_mem_nil, or_false, not_or] at h
  obtain ⟨hstatus, hlist, hstatistics⟩ := h
  unfold decodeMeasurement
  simp only
  rw [if_neg hstatus, if_neg hlist, if_neg hstatistics]

/-! ## The rows of the table -/

lemma IsMalformed.decode_eq (h : IsMalformed c f) :
    decode next c f = Call.ofExcept (.error (.malformed c f)) := by
  cases h with
  | value hvalue hword hshows hannounces =>
    rw [decode_of_isValue next hvalue]
    rcases mem_settingWords_iff.1 hword with hreader | hagents
    · obtain ⟨read, hread⟩ := Option.isSome_iff_exists.1 hreader
      rw [decodeValue_of_reader next hread]
      cases hsome : read f.payload with
      | none => rfl
      | some reply => exact absurd (showsSetting_iff.2 ⟨read, hread, hsome⟩) (hshows reply)
    · have hnone : announced? (agents? f.payload) = none := by
        refine Option.eq_none_iff_forall_ne_some.2 fun n hn => hannounces n ?_
        exact ⟨hvalue.verb_eq, hvalue.tag_eq, announced?_eq_some (l := .agents).1 hn⟩
      rw [decodeValue_of_agents next hagents, hnone]
      rfl
  | @count l run hdata htag hstart hread =>
    have hcount := l.count?_eq_some.2 hstart
    have hannounced : announced? (some run) = none := hread
    rw [decode_of_isData next hdata]
    cases l with
    | agents => cases htag
    | measurements =>
      rw [decodeMeasurement_of_list next (Listing.key_eq .measurements hstart)]
      simp only [show measurementCount? f.payload = some run from hcount, hannounced]
      rfl
    | statistics =>
      rw [decodeMeasurement_of_statistics next (Listing.key_eq .statistics hstart)]
      simp only [show statisticsCount? f.payload = some run from hcount, hannounced]
      rfl

/-- Every row of the table is what the decoder does, whatever the source. -/
theorem Judges.decode_eq {x : Except Error Reply} (h : Judges c f x) :
    decode next c f = Call.ofExcept x := by
  cases h with
  | uninterpreted hverb =>
    rw [decode, hverb]
    rfl
  | rejected hverb htag =>
    have hverdict : decodeVerdict c f = .error (.rejected c f.payload) := by
      simp [decodeVerdict, htag]
    rw [← hverdict]
    cases hc : c.verb with
    | set => simp only [decode, hc]
    | get => simp only [decode, hc, htag]
    | measure => simp only [decode, hc, htag]
    | extend => exact absurd hc hverb
  | cannotAnswer hanswer =>
    rcases hanswer with ⟨hc, htag | htag⟩ | ⟨hc, htag | htag⟩ | ⟨hc, htag⟩
    · simp only [decode, hc, decodeVerdict, htag]
    · simp only [decode, hc, decodeVerdict, htag]
    · simp only [decode, hc, htag]
      rfl
    · simp only [decode, hc, htag]
      rfl
    · simp only [decode, hc, decodeVerdict, htag]
  | accepted hverb htag =>
    rcases hverb with hc | hc
    · simp only [decode, hc, decodeVerdict, htag]
    · simp only [decode, hc, decodeVerdict, htag]
  | malformed hmalformed => exact hmalformed.decode_eq next
  | setting hvalue hshows =>
    obtain ⟨read, hread, hsome⟩ := showsSetting_iff.1 hshows
    rw [decode_of_isValue next hvalue, decodeValue_of_reader next hread, hsome]
    rfl
  | otherSetting hvalue hword =>
    rw [decode_of_isValue next hvalue, decodeValue_of_other next hword]
    rfl
  | status hdata hshows =>
    rw [decode_of_isData next hdata,
      decodeMeasurement_of_status next (key_eq_status_iff.2 ⟨_, hshows⟩), hshows.drop_eq]
    rfl
  | noList hdata hkey hcount =>
    have hnone : measurementCount? f.payload = none :=
      Option.eq_none_iff_forall_ne_some.2 fun run hrun =>
        hcount run (measurementCount?_eq_some.1 hrun)
    rw [decode_of_isData next hdata, decodeMeasurement_of_list next hkey, hnone]
    rfl
  | oneLine hdata hkey hcount hline =>
    have hnone : statisticsCount? f.payload = none :=
      Option.eq_none_iff_forall_ne_some.2 fun run hrun =>
        hcount run (statisticsCount?_eq_some.1 hrun)
    rw [decode_of_isData next hdata, decodeMeasurement_of_statistics next hkey, hnone,
      ← readStatistics_eq_iff.2 hline]
    rfl
  | otherData hdata hkey =>
    rw [decode_of_isData next hdata, decodeMeasurement_of_other next hkey]
    rfl

/-- Where the first frame decides, it decides the reply of every list of frames. -/
lemma Judges.ofFrames_eq {x : Except Error Reply} (h : Judges c f x) (rest : List Frame) :
    ofFrames c f rest = x := by
  rw [ofFrames, h.decode_eq, Call.run_ofExcept]

/-! ## Where no row applies -/

/-- A value is judged unless it announces agents. -/
lemma IsValue.judges_or_announces (h : IsValue c f) :
    (∃ x, Judges c f x) ∨ ∃ n, Announces c f .agents n := by
  by_cases hword : f.key ∈ settingWords
  · by_cases hshows : ∃ reply, ShowsSetting f.payload reply
    · obtain ⟨reply, hreply⟩ := hshows
      exact Or.inl ⟨_, .setting h hreply⟩
    · by_cases hannounces : ∃ n, Announces c f .agents n
      · exact Or.inr hannounces
      · exact Or.inl ⟨_, .malformed
          (.value h hword (not_exists.1 hshows) (not_exists.1 hannounces))⟩
  · exact Or.inl ⟨_, .otherSetting h hword⟩

/-- Behind the number of a list there is a list, or the number does not fit. -/
lemma IsData.judges_or_announces_of_start (h : IsData c f) (hverb : l.verb = .measure)
    (htag : l.tag = .measurement) {run : Text}
    (hstart : StartsWithRun Text.isDecimalDigit l.start f.payload run) :
    (∃ x, Judges c f x) ∨ ∃ n, Announces c f l n := by
  cases hread : Natural.read? UInt64.size run with
  | none => exact Or.inl ⟨_, .malformed (.count h htag hstart hread)⟩
  | some n =>
    exact Or.inr ⟨n, h.verb_eq.trans hverb.symm, h.tag_eq.trans htag.symm, run, hstart, hread⟩

/-- Measurement data are judged unless they announce a list. -/
lemma IsData.judges_or_announces (h : IsData c f) :
    (∃ x, Judges c f x) ∨ ∃ l n, Announces c f l n := by
  by_cases hword : f.key ∈ ["STATUS", "LST", "STAT"].map String.toList
  · simp only [List.map_cons, List.map_nil, List.mem_cons, List.not_mem_nil, or_false] at hword
    rcases hword with hkey | hkey | hkey
    · obtain ⟨text, hshows⟩ := key_eq_status_iff.1 hkey
      exact Or.inl ⟨_, .status h hshows⟩
    · by_cases hcount : ∃ run, StartsWithRun Text.isDecimalDigit "LST NUM " f.payload run
      · obtain ⟨run, hstart⟩ := hcount
        exact (h.judges_or_announces_of_start (l := .measurements) rfl rfl hstart).imp_right
          fun hannounces => ⟨_, hannounces⟩
      · exact Or.inl ⟨_, .noList h hkey (not_exists.1 hcount)⟩
    · by_cases hcount : ∃ run, StartsWithRun Text.isDecimalDigit "STAT NUM " f.payload run
      · obtain ⟨run, hstart⟩ := hcount
        exact (h.judges_or_announces_of_start (l := .statistics) rfl rfl hstart).imp_right
          fun hannounces => ⟨_, hannounces⟩
      · exact Or.inl ⟨_, .oneLine h hkey (not_exists.1 hcount) (readStatistics_eq_iff.1 rfl)⟩
  · exact Or.inl ⟨_, .otherData h hword⟩

/-- The first frame decides the reply, or it announces a list. -/
theorem judges_or_announces (c : Command) (f : Frame) :
    (∃ x, Judges c f x) ∨ ∃ l n, Announces c f l n := by
  by_cases hverb : c.verb = .extend
  · exact Or.inl ⟨_, .uninterpreted hverb⟩
  by_cases htag : f.tag = .rejected
  · exact Or.inl ⟨_, .rejected hverb htag⟩
  by_cases hanswer : CannotAnswer f.tag c.verb
  · exact Or.inl ⟨_, .cannotAnswer hanswer⟩
  by_cases haccepts : (c.verb = .set ∨ c.verb = .measure) ∧ f.tag = .accepted
  · exact Or.inl ⟨_, .accepted haccepts.1 haccepts.2⟩
  -- What is left are values for questions and data about measurements.
  have hcases : IsValue c f ∨ IsData c f := by
    cases hc : c.verb <;> cases hf : f.tag <;> simp_all [CannotAnswer]
    · exact Or.inl ⟨hc, hf⟩
    · exact Or.inr ⟨hc, hf⟩
  rcases hcases with hvalue | hdata
  · exact hvalue.judges_or_announces.imp_right fun hannounces => ⟨_, hannounces⟩
  · exact hdata.judges_or_announces

end Reply

end TimingBoard
