import TimingBoard.Proofs.Board.Runs

/-!
# What a line changes

Every line is noted, and it ends a run that has lasted the total time.  What it does beyond that is
bounded by its verb and its key.  A change of settings that is accepted touches the one setting that
its key names.  A line about measurements touches the run and the list of measurements and no
setting; it touches nothing if it only asks.  A line that is rejected touches nothing at all,
however much of it could be read: no part of a value is stored before all of it has been read.

So a setting that is named by no accepted change keeps its value, whatever lines arrive.
-/

namespace TimingBoard

/-! ## Names of settings -/

/-- What a setting of the board is called. -/
inductive SettingName where
  | timing (key : TimingKey)
  | filePrefix
  | autosave
  | format
  | monitor
  deriving DecidableEq

namespace SettingName

/-- The setting that a key names. Two keys name the monitor: one switches it on, and one off. -/
def ofKey? (key : Text) : Option SettingName :=
  match TimingKey.ofWord? key with
  | some timingKey => some (.timing timingKey)
  | none =>
    if key = "PREFIX".toList then some .filePrefix
    else if key = "AUTOSAVE".toList then some .autosave
    else if key = "FORMAT".toList then some .format
    else if key = "MONITOR".toList ∨ key = "NOMONITOR".toList then some .monitor
    else none

/-- Two boards have the same value of a setting. -/
def Agrees (b b' : Board) : SettingName → Prop
  | .timing key => b'.timing key = b.timing key
  | .filePrefix => b'.filePrefix = b.filePrefix
  | .autosave => b'.autosave = b.autosave
  | .format => b'.format = b.format
  | .monitor => b'.monitor = b.monitor

lemma Agrees.trans {name : SettingName} {b₁ b₂ b₃ : Board} (h : name.Agrees b₁ b₂)
    (h' : name.Agrees b₂ b₃) : name.Agrees b₁ b₃ := by
  cases name <;> exact Eq.trans h' h

lemma agrees_of_sameSettings {b b' : Board} (h : Board.SameSettings b b') (name : SettingName) :
    name.Agrees b b' := by
  cases name with
  | timing key => exact h.timing key
  | filePrefix => exact h.filePrefix
  | autosave => exact h.autosave
  | format => exact h.format
  | monitor => exact h.monitor

end SettingName

namespace Setting

/-- The setting that a change is about. -/
def name : Setting → SettingName
  | .timing key _ => .timing key
  | .filePrefix _ => .filePrefix
  | .autosave _ => .autosave
  | .format _ => .format
  | .monitor _ => .monitor

/-- A change is read only behind a key that names its setting. -/
lemma IsReadFrom.ofKey? {setting : Setting} {key value : Text} (h : setting.IsReadFrom key value) :
    SettingName.ofKey? key = some setting.name := by
  cases setting with
  | timing timingKey t => rw [SettingName.ofKey?, h.1, name]
  | filePrefix _ =>
    rw [h.1]
    rfl
  | autosave _ =>
    rw [h.1]
    rfl
  | format _ =>
    rw [h.1]
    rfl
  | monitor value =>
    cases value with
    | some m =>
      rw [h.1]
      rfl
    | none =>
      rw [show key = "NOMONITOR".toList from h]
      rfl

end Setting

namespace Board

/-- A board that differs from another in one setting at most. -/
structure DiffersOnlyIn (name : SettingName) (b b' : Board) : Prop where
  settings : ∀ other, other ≠ name → SettingName.Agrees b b' other
  setup : SameSetup b b'
  measurements : b'.measurements = b.measurements
  runningSince : b'.runningSince = b.runningSince
  received : b'.received = b.received

/-- A change makes no difference but in its own setting. -/
lemma differsOnlyIn_apply (setting : Setting) (b : Board) :
    DiffersOnlyIn setting.name b (setting.apply b) := by
  cases setting with
  | timing key value =>
    refine ⟨fun other hother => ?_, ?_, ?_, ?_, ?_⟩
    · cases other with
      | timing otherKey =>
        have hkey : otherKey ≠ key := fun heq => hother (congrArg _ heq)
        exact (timing_setTiming key otherKey value b).trans (if_neg hkey)
      | _ => cases key <;> rfl
    all_goals cases key <;> first | rfl | exact ⟨rfl, rfl, rfl⟩
  | _ =>
    refine ⟨fun other hother => ?_, ⟨rfl, rfl, rfl⟩, rfl, rfl, rfl⟩
    cases other <;> first | rfl | exact absurd rfl hother

/-! ## Rejections -/

/-- An answer that begins with a rejection. -/
def IsRejection (frames : List Frame) : Prop :=
  ∃ f ∈ frames.head?, f.tag = .rejected

instance (frames : List Frame) : Decidable (IsRejection frames) :=
  inferInstanceAs (Decidable (∃ f ∈ frames.head?, f.tag = .rejected))

variable {now : Instant} {line argument key value : Text} {b : Board}

lemma not_isRejection_accepted : ¬ IsRejection accepted := by
  simp [IsRejection, accepted]

/-- A change of settings that is not accepted is not made. -/
lemma answerSet_of_ne_accepted (h : (b.answerSet argument).1 ≠ accepted) :
    (b.answerSet argument).2 = b := by
  rcases answerSet_cases rfl b with ⟨setting, -, hset⟩ | hset | hset
  · rw [hset] at h
    exact absurd rfl h
  · rw [hset]
  · rw [hset]

/-- A change of settings that is accepted makes no difference but in the setting that its key
names. -/
lemma exists_differsOnlyIn_of_accepted (h : (b.answerSet argument).1 = accepted) :
    ∃ name, SettingName.ofKey? (Text.cutAtSpace argument).1 = some name ∧
      DiffersOnlyIn name b (b.answerSet argument).2 := by
  rcases answerSet_cases rfl b with ⟨setting, hread, hset⟩ | hset | hset
  · rw [hset]
    exact ⟨setting.name, hread.ofKey?, differsOnlyIn_apply setting b⟩
  · rw [hset] at h
    cases h
  · rw [hset] at h
    cases h

/-- The keys of the lines about measurements that only ask. -/
def askingKeys : List String := ["STATUS", "LST", "LIST", "STAT", "SAV", "SAVE"]

/-- What is rejected about measurements, and what is only asked, leaves the board as it is. -/
lemma Measures.eq_self {frames : List Frame} {b' : Board}
    (h : Measures now key value b (frames, b'))
    (hleaves : IsRejection frames ∨ key ∈ askingKeys.map String.toList) : b' = b := by
  have hasks {word : String} (hkey : key = word.toList)
      (hword : word.toList ∉ askingKeys.map String.toList) : IsRejection frames :=
    hleaves.resolve_right (hkey ▸ hword)
  cases h with
  | started hkey => exact absurd (hasks hkey (by decide)) not_isRejection_accepted
  | stopped hkey => exact absurd (hasks hkey (by decide)) not_isRejection_accepted
  | deleted hkey => exact absurd (hasks hkey (by decide)) not_isRejection_accepted
  | cleared hkey => exact absurd (hasks hkey (by decide)) not_isRejection_accepted
  | _ => rfl

/-! ## Lines -/

/-- A line that changes settings is answered by its key and its value. -/
lemma answer_of_set (hverb : (Text.cutAtSpace line).1 = "SET".toList) (now : Instant) (b : Board) :
    b.answer now line = b.answerSet (Text.cutAtSpace line).2 := by
  have hset : Verb.ofWord? (Text.cutAtSpace line).1 = some .set :=
    Verb.ofWord?_eq_some_iff.2 hverb.symm
  unfold answer
  simp only [hset]

/-- A line that neither changes settings nor is about measurements leaves the board as it is. -/
lemma answer_of_other (hset : (Text.cutAtSpace line).1 ≠ "SET".toList)
    (hmeasure : (Text.cutAtSpace line).1 ≠ "MSR".toList) (now : Instant) (b : Board) :
    (b.answer now line).2 = b := by
  unfold answer
  simp only
  split
  · next hverb => exact absurd (Verb.ofWord?_eq_some_iff.1 hverb).symm hset
  · rfl
  · next hverb => exact absurd (Verb.ofWord?_eq_some_iff.1 hverb).symm hmeasure
  · rfl
  · rfl

end Board

namespace Turn

open Board

/-- The verb of the line. -/
def verb (t : Turn) : Text := (Text.cutAtSpace t.line).1

/-- What follows the verb. -/
def argument (t : Turn) : Text := (Text.cutAtSpace t.line).2

/-- The key of the line, which is the first word of its argument. -/
def key (t : Turn) : Text := (Text.cutAtSpace t.argument).1

/-- A turn in which the board has nothing to change: the line is rejected, it has another verb than
those of changes and measurements, or it only asks about measurements. -/
def IsIdle (t : Turn) : Prop :=
  IsRejection t.answer ∨ t.verb ∉ ["SET".toList, "MSR".toList] ∨
    (t.verb = "MSR".toList ∧ t.key ∈ askingKeys.map String.toList)

instance (t : Turn) : Decidable t.IsIdle := inferInstanceAs (Decidable (_ ∨ _ ∨ _))

variable {t : Turn}

lemma answer_of_set (h : t.verb = "SET".toList) : t.answer = (t.checked.answerSet t.argument).1 :=
  congrArg Prod.fst (Board.answer_of_set h t.now t.checked)

lemma after_of_set (h : t.verb = "SET".toList) : t.after = (t.checked.answerSet t.argument).2 :=
  congrArg Prod.snd (Board.answer_of_set h t.now t.checked)

/-- A line about measurements is answered by its key and its value. -/
lemma measures (h : t.verb = "MSR".toList) :
    Measures t.now t.key (Text.cutAtSpace t.argument).2 t.checked (t.answer, t.after) := by
  have hanswer : (t.answer, t.after) = t.checked.answerMeasure t.now t.argument :=
    Board.answer_of_measure h t.now t.checked
  rw [hanswer]
  exact measures_answerMeasure t.now t.argument t.checked

/-- A change that is not accepted is not made. -/
lemma after_eq_of_not_accepted (hset : t.verb = "SET".toList) (h : t.answer ≠ accepted) :
    t.after = t.checked := by
  rw [answer_of_set hset] at h
  rw [after_of_set hset, answerSet_of_ne_accepted h]

/-- An idle turn leaves the board as the check of the run has left it. -/
lemma IsIdle.after_eq (h : t.IsIdle) : t.after = t.checked := by
  by_cases hset : t.verb = "SET".toList
  · refine after_eq_of_not_accepted hset fun haccepted => ?_
    rcases h with hrejection | hverb | ⟨hverb, -⟩
    · exact not_isRejection_accepted (haccepted ▸ hrejection)
    · simp [hset] at hverb
    · exact absurd (hset.symm.trans hverb) (by decide)
  by_cases hmeasure : t.verb = "MSR".toList
  · refine (measures hmeasure).eq_self (h.imp_right ?_)
    rintro (hverb | ⟨-, hkey⟩)
    · simp [hmeasure] at hverb
    · exact hkey
  · exact answer_of_other hset hmeasure t.now t.checked

/-- A change that is accepted makes no difference but in the setting that its key names. -/
lemma exists_differsOnlyIn (hset : t.verb = "SET".toList) (haccepted : t.answer = accepted) :
    ∃ name, SettingName.ofKey? t.key = some name ∧ DiffersOnlyIn name t.checked t.after := by
  rw [answer_of_set hset] at haccepted
  rw [after_of_set hset]
  exact exists_differsOnlyIn_of_accepted haccepted

/-- A line about measurements changes no setting. -/
lemma sameSettings_of_measure (hmeasure : t.verb = "MSR".toList) :
    SameSettings t.checked t.after := by
  have hafter : t.after = (t.checked.answerMeasure t.now t.argument).2 :=
    congrArg Prod.snd (Board.answer_of_measure hmeasure t.now t.checked)
  rw [hafter]
  exact sameSettings_answerMeasure t.now t.argument t.checked

/-- A line that is no change of settings changes none. -/
lemma sameSettings_of_ne_set (hset : t.verb ≠ "SET".toList) : SameSettings t.checked t.after := by
  by_cases hmeasure : t.verb = "MSR".toList
  · exact sameSettings_of_measure hmeasure
  · rw [show t.after = t.checked from answer_of_other hset hmeasure t.now t.checked]
    exact .refl _

/-- **What a line leaves alone.** A line that is rejected, one with another verb than those of
changes and measurements, and one that only asks about measurements leave the board as it is once
the line has been noted and the run has been checked.  A change that is accepted makes no difference
but in the one setting that its key names.  A line about measurements changes no setting. -/
theorem after_differs (t : Turn) :
    (t.IsIdle → t.after = t.checked) ∧
    (t.verb = "SET".toList → t.answer = accepted →
      ∃ name, SettingName.ofKey? t.key = some name ∧ DiffersOnlyIn name t.checked t.after) ∧
    (t.verb = "MSR".toList → SameSettings t.checked t.after) :=
  ⟨IsIdle.after_eq, exists_differsOnlyIn, sameSettings_of_measure⟩

/-- The second number of a monitor cannot be read, so that its first number and its file are not
stored either; but the line finds the run over, and that is recorded.  The monitor is switched off
by a key of its own, and measurements are asked for in between. -/
theorem after_differs_halfMonitor :
    let monitor : Monitor := ⟨1, 2, "live".toList⟩
    let board : Board := { atRest with monitor := some monitor, runningSince := some ⟨0⟩ }
    let late : Instant := ⟨20 * nanosPerSecond⟩
    let half : Turn := ⟨late, "SET MONITOR 5 x run".toList, board⟩
    let off : Turn := ⟨late, "SET NOMONITOR now".toList, board⟩
    let ask : Turn := ⟨late, "MSR STAT -0".toList, board⟩
    (half.after = half.checked ∧ half.after.monitor = some monitor ∧
      half.after.measurements = [2000]) ∧
    (DiffersOnlyIn .monitor off.checked off.after ∧ off.after.monitor = none) ∧
    ask.after = ask.checked ∧ SameSettings ask.checked ask.after := by
  intro monitor board late half off ask
  obtain ⟨name, hname, hdiffers⟩ := (after_differs off).2.1 (by decide +kernel) (by decide +kernel)
  have hmonitor : SettingName.ofKey? off.key = some .monitor := by decide
  obtain rfl := Option.some.inj (hname.symm.trans hmonitor)
  refine ⟨⟨(after_differs half).1 (by decide +kernel), by decide +kernel, by decide +kernel⟩,
    ⟨hdiffers, by decide +kernel⟩, (after_differs ask).1 (by decide +kernel),
    (after_differs ask).2.2 (by decide)⟩

end Turn

/-! ## Lines one after the other -/

namespace Board

/-- **Who changes a setting.** A setting that no accepted change names keeps its value, whatever
lines arrive. -/
theorem agrees_takeAll (name : SettingName) (lines : List (Instant × Text)) (b : Board)
    (h : ∀ t ∈ b.turns lines, t.verb = "SET".toList → t.answer = accepted →
      SettingName.ofKey? t.key ≠ some name) : name.Agrees b (b.takeAll lines) := by
  induction lines generalizing b with
  | nil => exact SettingName.agrees_of_sameSettings (.refl b) name
  | cons arrival rest ih =>
    obtain ⟨now, line⟩ := arrival
    let t : Turn := ⟨now, line, b⟩
    have hrest := ih t.after fun t' ht' => h t' (List.mem_cons_of_mem _ ht')
    have hchecked := SettingName.agrees_of_sameSettings (sameSettings_prepared now line b) name
    refine hchecked.trans (SettingName.Agrees.trans ?_ hrest)
    by_cases hset : t.verb = "SET".toList
    · by_cases haccepted : t.answer = accepted
      · obtain ⟨other, hother, hdiffers⟩ := t.exists_differsOnlyIn hset haccepted
        refine hdiffers.settings name fun heq => ?_
        exact h t (List.mem_cons_self ..) hset haccepted (heq ▸ hother)
      · rw [t.after_eq_of_not_accepted hset haccepted]
        exact SettingName.agrees_of_sameSettings (.refl _) name
    · exact SettingName.agrees_of_sameSettings (t.sameSettings_of_ne_set hset) name

end Board

end TimingBoard
