import TimingBoard.Proofs.Board.Expiry

/-!
# Accounting for runs

A run begins with a start that the board accepts, and it ends in one of two ways: a stop ends it, or
a line of any kind arrives once it has lasted the total time.  Either way it is recorded, as the
last of the stored measurements.

So there is an account to be kept. Every start that is accepted is a run that is recorded, or one
that is still in progress.  Measurements that are taken out of the list were recorded before, and a
total time that is changed during a run changes when the run ends, but not that it is recorded.  The
account is kept line by line: a line first records the run that it finds over, and then it may start
a run or stop one, but not both.
-/

namespace TimingBoard

namespace Board

variable {now : Instant} {line : Text} {b : Board}

/-- A line about measurements with a key. -/
def Asks (key : String) (line : Text) : Prop :=
  (Text.cutAtSpace line).1 = "MSR".toList ∧
    (Text.cutAtSpace (Text.cutAtSpace line).2).1 = key.toList

instance (key : String) (line : Text) : Decidable (Asks key line) :=
  inferInstanceAs (Decidable (_ ∧ _))

lemma Asks.key_eq {key key' : String} (h : Asks key line) (h' : Asks key' line) :
    key.toList = key'.toList :=
  h.2.symm.trans h'.2

/-- What may be left of a list of measurements when a line is answered: all of them, all but one
that is deleted, or none if they are cleared. -/
def Leaves (line : Text) (stored left : List UInt32) : Prop :=
  left = stored ∨ (Asks "DEL" line ∧ ∃ place < stored.length, left = stored.eraseIdx place) ∨
    (Asks "CLR" line ∧ left = [])

/-! ## Ends of runs -/

/-- The record of the run in progress, if it ends at a moment. -/
def recordAt (now : Instant) (b : Board) : List UInt32 :=
  b.runningSince.toList.map fun since => startsOf (now.since since)

/-- The record of a run that is found over. -/
def expired (now : Instant) (b : Board) : List UInt32 :=
  if b.isOver now then b.recordAt now else []

lemma length_recordAt (now : Instant) (b : Board) :
    (b.recordAt now).length = b.runningSince.isSome.toNat := by
  rw [recordAt, List.length_map]
  cases b.runningSince <;> rfl

lemma endRun_eq (now : Instant) (b : Board) : b.endRun now = { b with
    runningSince := none
    measurements := b.measurements ++ b.recordAt now } := by
  obtain ⟨_, _, _, _, _, _, _, _, _, _ | since, _, _, _⟩ := b <;> simp [endRun, recordAt]

/-- A line that finds a run over records it as the last measurement. -/
lemma prepared_eq (now : Instant) (line : Text) (b : Board) : b.prepared now line = { b with
    received := b.received ++ [line]
    runningSince := if b.isOver now then none else b.runningSince
    measurements := b.measurements ++ b.expired now } := by
  cases hover : b.isOver now with
  | true =>
    obtain ⟨since, hrun⟩ := exists_since_of_isOver hover
    simp [prepared_of_isOver hrun hover, expired, recordAt, hover, hrun]
  | false => simp [prepared_of_not_isOver hover, expired, hover]

/-- To find a run over ends it. -/
lemma length_expired (now : Instant) (line : Text) (b : Board) :
    (b.expired now).length + (b.prepared now line).runningSince.isSome.toNat =
      b.runningSince.isSome.toNat := by
  rw [prepared_eq, expired]
  cases b.isOver now with
  | true => simpa using b.length_recordAt now
  | false => simp

/-- A run that is still in progress after the check has not lasted the total time, unless that is
zero. -/
lemma lasts_of_prepared {since : Instant} (hrun : (b.prepared now line).runningSince = some since) :
    b.totalTime.span.nanos = 0 ∨ (now.since since).nanos < b.totalTime.span.nanos := by
  rw [prepared_eq] at hrun
  cases hover : b.isOver now with
  | true => simp [hover] at hrun
  | false =>
    obtain hsince : b.runningSince = some since := by simpa [hover] using hrun
    by_contra hlasts
    rw [not_or, Nat.not_lt] at hlasts
    simp [isOver, hsince, hlasts.1, hlasts.2] at hover

/-- While the total time is zero no run is over. -/
lemma isOver_of_totalTime_zero (h : b.totalTime.span.nanos = 0) (now : Instant) :
    b.isOver now = false := by
  rw [isOver]
  split <;> simp [h]

/-! ## Answers -/

/-- What a line does about runs when it is answered. -/
inductive Treats (now : Instant) (line : Text) (b : Board) : List Frame × Board → Prop
  | started : Asks "START" line → b.runningSince = none →
      Treats now line b (accepted, { b with runningSince := some now })
  | refused {since : Instant} : Asks "START" line → b.runningSince = some since →
      Treats now line b (Board.rejected "9:START", b)
  | stopped : Asks "STOP" line → Treats now line b (accepted, b.endRun now)
  | told : Asks "STATUS" line → Treats now line b ([dataFrame ["STATUS".toList,
      if b.runningSince.isSome then "RUNNING".toList else "IDLE".toList]], b)
  | other {frames : List Frame} {b' : Board} : ¬ Asks "START" line → ¬ Asks "STOP" line →
      ¬ Asks "STATUS" line → b'.runningSince = b.runningSince →
      Leaves line b.measurements b'.measurements → Treats now line b (frames, b')

/-- A line about measurements is answered by its key. -/
lemma answer_of_measure (hverb : (Text.cutAtSpace line).1 = "MSR".toList) (now : Instant)
    (b : Board) : b.answer now line = b.answerMeasure now (Text.cutAtSpace line).2 := by
  have hmeasure : Verb.ofWord? (Text.cutAtSpace line).1 = some .measure := by
    rw [hverb]
    rfl
  unfold answer
  simp only [hmeasure]

/-- A line that is not about measurements leaves the runs and their records alone. -/
lemma answer_of_not_measure (hverb : (Text.cutAtSpace line).1 ≠ "MSR".toList) (now : Instant)
    (b : Board) : (b.answer now line).2.runningSince = b.runningSince ∧
      (b.answer now line).2.measurements = b.measurements := by
  unfold answer
  simp only
  split
  · refine of_answerSet (P := fun b' => b'.runningSince = b.runningSince ∧
      b'.measurements = b.measurements) ⟨rfl, rfl⟩ fun setting _ => ?_
    cases setting with
    | timing key value => cases key <;> exact ⟨rfl, rfl⟩
    | _ => exact ⟨rfl, rfl⟩
  · exact ⟨rfl, rfl⟩
  · next hmeasure =>
    have hword := List.find?_some hmeasure
    exact absurd (beq_iff_eq.1 hword).symm hverb
  · exact ⟨rfl, rfl⟩
  · exact ⟨rfl, rfl⟩

/-- An answer about measurements leaves what is neither deleted nor cleared. -/
lemma leaves_answerMeasure (hverb : (Text.cutAtSpace line).1 = "MSR".toList)
    (hstart : ¬ Asks "START" line) (hstop : ¬ Asks "STOP" line) (now : Instant) (b : Board) :
    (b.answerMeasure now (Text.cutAtSpace line).2).2.runningSince = b.runningSince ∧
      Leaves line b.measurements
        (b.answerMeasure now (Text.cutAtSpace line).2).2.measurements := by
  have hmeasures := measures_answerMeasure now (Text.cutAtSpace line).2 b
  generalize b.answerMeasure now (Text.cutAtSpace line).2 = result at hmeasures
  cases hmeasures with
  | started hkey => exact absurd ⟨hverb, hkey⟩ hstart
  | stopped hkey => exact absurd ⟨hverb, hkey⟩ hstop
  | @deleted place hkey hplace =>
    have hbound : place < b.measurements.length := by
      simpa using (Option.filter_eq_some_iff.1 hplace).2
    exact ⟨rfl, Or.inr (Or.inl ⟨⟨hverb, hkey⟩, place, hbound, rfl⟩)⟩
  | cleared hkey => exact ⟨rfl, Or.inr (Or.inr ⟨⟨hverb, hkey⟩, rfl⟩)⟩
  | _ => exact ⟨rfl, Or.inl rfl⟩

/-- Every line treats the runs in one of these ways. -/
lemma treats_answer (now : Instant) (line : Text) (b : Board) :
    Treats now line b (b.answer now line) := by
  by_cases hverb : (Text.cutAtSpace line).1 = "MSR".toList
  · rw [answer_of_measure hverb]
    have hasks {key : String} : Asks key line ↔
        (Text.cutAtSpace (Text.cutAtSpace line).2).1 = key.toList := and_iff_right hverb
    by_cases hstart : Asks "START" line
    · unfold answerMeasure
      simp only [hasks.1 hstart, if_true]
      cases hrun : b.runningSince with
      | none => exact .started hstart hrun
      | some since => exact .refused hstart hrun
    by_cases hstop : Asks "STOP" line
    · unfold answerMeasure
      simp only [hasks.1 hstop]
      exact .stopped hstop
    by_cases hstatus : Asks "STATUS" line
    · unfold answerMeasure
      simp only [hasks.1 hstatus]
      exact .told hstatus
    obtain ⟨hrun, hleaves⟩ := leaves_answerMeasure hverb hstart hstop now b
    exact .other hstart hstop hstatus hrun hleaves
  · obtain ⟨hrun, hstored⟩ := answer_of_not_measure hverb now b
    have hnot {key : String} : ¬ Asks key line := fun hasks => hverb hasks.1
    exact .other hnot hnot hnot hrun (Or.inl hstored)

end Board

/-! ## Turns -/

/-- A turn of the board: a line arrives at a moment, and is taken by the board as it is found. -/
structure Turn where
  now : Instant
  line : Text
  board : Board

namespace Turn

open Board

/-- The board once it has checked whether a run is over. -/
def checked (t : Turn) : Board := t.board.prepared t.now t.line

/-- The answer to the line. -/
def answer (t : Turn) : List Frame := (t.board.handle t.now t.line).1

/-- The board after the turn. -/
def after (t : Turn) : Board := (t.board.handle t.now t.line).2

/-- The record of a run that the line stops. -/
def stopped (t : Turn) : List UInt32 :=
  if Asks "STOP" t.line then t.checked.recordAt t.now else []

/-- The records that are made in a turn, in their order. -/
def records (t : Turn) : List UInt32 := t.board.expired t.now ++ t.stopped

/-- A turn in which a start is accepted. -/
def StartsRun (t : Turn) : Prop := Asks "START" t.line ∧ t.answer = accepted

instance (t : Turn) : Decidable t.StartsRun := inferInstanceAs (Decidable (_ ∧ _))

lemma treats (t : Turn) : Treats t.now t.line t.checked (t.answer, t.after) :=
  treats_answer t.now t.line t.checked

lemma measurements_checked (t : Turn) :
    t.checked.measurements = t.board.measurements ++ t.board.expired t.now := by
  rw [checked, prepared_eq]

lemma stopped_of_asks {t : Turn} {key : String} (h : Asks key t.line)
    (hkey : key.toList ≠ "STOP".toList) : t.stopped = [] :=
  if_neg fun hstop => hkey (h.key_eq hstop)

lemma not_startsRun_of_asks {t : Turn} {key : String} (h : Asks key t.line)
    (hkey : key.toList ≠ "START".toList) : ¬ t.StartsRun :=
  fun hstart => hkey (h.key_eq hstart.1)

/-- What the line does is accounted for: a run in progress was in progress before or is started, and
is in progress afterwards or is stopped. -/
lemma length_stopped (t : Turn) :
    t.stopped.length + t.after.runningSince.isSome.toNat =
      (if t.StartsRun then 1 else 0) + t.checked.runningSince.isSome.toNat := by
  have hstarts : t.StartsRun ↔ Asks "START" t.line ∧ t.answer = accepted := Iff.rfl
  have htreats := t.treats
  generalize t.after = after at htreats ⊢
  generalize t.answer = answer at htreats hstarts
  cases htreats with
  | started hasks hidle =>
    rw [if_pos (hstarts.2 ⟨hasks, rfl⟩), stopped_of_asks hasks (by decide), hidle]
    rfl
  | refused hasks hrun =>
    rw [if_neg (fun hstart => absurd (hstarts.1 hstart).2 (by decide)),
      stopped_of_asks hasks (by decide), List.length_nil]
  | stopped hasks =>
    rw [if_neg (not_startsRun_of_asks hasks (by decide)), stopped, if_pos hasks, length_recordAt,
      endRun_eq]
    simp
  | told hasks =>
    rw [if_neg (not_startsRun_of_asks hasks (by decide)), stopped_of_asks hasks (by decide),
      List.length_nil]
  | other hstart hstop _ hrun _ =>
    rw [if_neg (fun h => hstart h.1), stopped, if_neg hstop, hrun, List.length_nil]

/-- The account of a turn. -/
lemma length_records (t : Turn) :
    t.records.length + t.after.runningSince.isSome.toNat =
      (if t.StartsRun then 1 else 0) + t.board.runningSince.isSome.toNat := by
  have hexpired : (t.board.expired t.now).length + t.checked.runningSince.isSome.toNat =
      t.board.runningSince.isSome.toNat := length_expired t.now t.line t.board
  have hstopped := t.length_stopped
  rw [records, List.length_append]
  omega

/-- A start is accepted if no run is in progress after the check, and rejected otherwise. -/
lemma answer_of_start {t : Turn} (h : Asks "START" t.line) :
    t.answer = if t.checked.runningSince.isSome then Board.rejected "9:START" else accepted := by
  have htreats := t.treats
  generalize t.after = after at htreats
  generalize t.answer = answer at htreats ⊢
  cases htreats with
  | started _ hidle => simp [hidle]
  | refused _ hrun => simp [hrun]
  | stopped hasks => exact absurd (h.key_eq hasks) (by decide)
  | told hasks => exact absurd (h.key_eq hasks) (by decide)
  | other hstart => exact absurd h hstart

/-- The status tells whether a run is in progress after the check. -/
lemma answer_of_status {t : Turn} (h : Asks "STATUS" t.line) :
    t.answer = [dataFrame ["STATUS".toList,
      if t.checked.runningSince.isSome then "RUNNING".toList else "IDLE".toList]] := by
  have htreats := t.treats
  generalize t.after = after at htreats
  generalize t.answer = answer at htreats ⊢
  cases htreats with
  | started hasks => exact absurd (h.key_eq hasks) (by decide)
  | refused hasks => exact absurd (h.key_eq hasks) (by decide)
  | stopped hasks => exact absurd (h.key_eq hasks) (by decide)
  | told => rfl
  | other _ _ hstatus => exact absurd h hstatus

/-- Records are appended to the list, and only stored measurements are taken out of it. -/
lemma exists_leaves (t : Turn) :
    ∃ left, Leaves t.line (t.board.measurements ++ t.board.expired t.now) left ∧
      t.after.measurements = left ++ t.stopped := by
  rw [← t.measurements_checked]
  have htreats := t.treats
  generalize t.after = after at htreats ⊢
  generalize t.answer = answer at htreats
  cases htreats with
  | started hasks =>
    exact ⟨_, Or.inl rfl, by rw [stopped_of_asks hasks (by decide), List.append_nil]⟩
  | refused hasks =>
    exact ⟨_, Or.inl rfl, by rw [stopped_of_asks hasks (by decide), List.append_nil]⟩
  | stopped hasks =>
    refine ⟨_, Or.inl rfl, ?_⟩
    rw [stopped, if_pos hasks, endRun_eq]
  | told hasks =>
    exact ⟨_, Or.inl rfl, by rw [stopped_of_asks hasks (by decide), List.append_nil]⟩
  | other _ hstop _ _ hleaves => exact ⟨_, hleaves, by rw [stopped, if_neg hstop, List.append_nil]⟩

/-- While the total time is zero only a stop ends a run. -/
lemma runningSince_after {t : Turn} {since : Instant} (hrun : t.board.runningSince = some since)
    (hzero : t.board.totalTime.span.nanos = 0) (hstop : ¬ Asks "STOP" t.line) :
    t.after.runningSince = some since := by
  have hchecked : t.checked.runningSince = some since := by
    rw [checked, prepared_of_not_isOver (isOver_of_totalTime_zero hzero t.now)]
    exact hrun
  have htreats := t.treats
  generalize t.after = after at htreats ⊢
  generalize t.answer = answer at htreats
  cases htreats with
  | started _ hidle => simp [hidle] at hchecked
  | refused => exact hchecked
  | stopped hasks => exact absurd hasks hstop
  | told => exact hchecked
  | other _ _ _ hsame => exact hsame.trans hchecked

end Turn

/-! ## Accounts -/

namespace Board

/-- The turns of a board that takes lines one after the other. -/
def turns : List (Instant × Text) → Board → List Turn
  | [], _ => []
  | (now, line) :: rest, b => ⟨now, line, b⟩ :: turns rest (b.handle now line).2

/-- The board after it has taken lines one after the other. -/
def takeAll (lines : List (Instant × Text)) (b : Board) : Board :=
  lines.foldl (fun b (now, line) => (b.handle now line).2) b

/-- The account of all turns together. -/
lemma length_records (lines : List (Instant × Text)) (b : Board) :
    ((b.turns lines).flatMap Turn.records).length + (b.takeAll lines).runningSince.isSome.toNat =
      (b.turns lines).countP (·.StartsRun) + b.runningSince.isSome.toNat := by
  induction lines generalizing b with
  | nil => rfl
  | cons arrival rest ih =>
    obtain ⟨now, line⟩ := arrival
    have hturn := (Turn.mk now line b).length_records
    have hrest := ih (b.handle now line).2
    simp only [turns, takeAll, List.flatMap_cons, List.length_append, List.countP_cons,
      List.foldl_cons, decide_eq_true_eq] at hrest ⊢
    simp only [Turn.after] at hturn
    omega

/-- **No run is lost, and none is counted twice.** A board takes any lines at any moments.  The runs
that it records, with the one that is still in progress, are as many as the starts that it accepts,
with the run that was in progress at the beginning.

Each record is appended to the list of measurements: that of a run that is found over before
anything is taken out of the list, and that of a run that is stopped.  A start is accepted if no run
is in progress once the board has checked whether it is over, and rejected otherwise.  The status
tells whether there is one; a run that has passed the check has not lasted the total time yet,
unless that is zero.  While the total time is zero, a run goes on through every line that is no
stop. -/
theorem runs_accounted (b : Board) (lines : List (Instant × Text)) :
    ((b.turns lines).flatMap Turn.records).length + (b.takeAll lines).runningSince.isSome.toNat =
        (b.turns lines).countP (·.StartsRun) + b.runningSince.isSome.toNat ∧
      ∀ t ∈ b.turns lines,
        (∃ left, Leaves t.line (t.board.measurements ++ t.board.expired t.now) left ∧
          t.after.measurements = left ++ t.stopped) ∧
        (Asks "START" t.line →
          t.answer = if t.checked.runningSince.isSome then rejected "9:START" else accepted) ∧
        (Asks "STATUS" t.line → t.answer = [dataFrame ["STATUS".toList,
          if t.checked.runningSince.isSome then "RUNNING".toList else "IDLE".toList]]) ∧
        (∀ since, t.checked.runningSince = some since → t.checked.totalTime.span.nanos ≠ 0 →
          (t.now.since since).nanos < t.checked.totalTime.span.nanos) ∧
        ∀ since, t.board.runningSince = some since → t.board.totalTime.span.nanos = 0 →
          ¬ Asks "STOP" t.line → t.after.runningSince = some since := by
  refine ⟨b.length_records lines, fun t _ => ⟨t.exists_leaves, t.answer_of_start,
    t.answer_of_status, fun since hrun htotal => ?_, fun since => t.runningSince_after⟩⟩
  have hsame : t.checked.totalTime = t.board.totalTime := by
    rw [Turn.checked, prepared_eq]
  rw [hsame] at htotal ⊢
  exact (lasts_of_prepared hrun).resolve_left htotal

/-- A run without end is given one while it is in progress, and a line that is rejected finds it
over. The next run is stopped, and the first record is deleted. -/
theorem runs_accounted_cutShort :
    let lines := [(0, "SET TT 0s"), (0, "MSR START"), (1, "MSR START"), (2, "SET TT 3s"),
      (2, "MSR STATUS"), (4, "FOO"), (5, "MSR START"), (6, "MSR STOP"), (7, "MSR DEL 0")].map
        fun (seconds, line) => (Instant.mk (seconds * nanosPerSecond), line.toList)
    let turn (place : Nat) : Option Turn := (atRest.turns lines)[place]?
    ((atRest.turns lines).flatMap Turn.records).length = 2 ∧
      (atRest.takeAll lines).measurements = [100] ∧
      (∃ t ∈ turn 2, Asks "START" t.line ∧ t.answer = rejected "9:START") ∧
      (∃ t ∈ turn 3, t.board.totalTime.span.nanos = 0 ∧ ¬ Asks "STOP" t.line ∧
        t.after.runningSince = some ⟨0⟩) ∧
      ∃ t ∈ turn 4, Asks "STATUS" t.line ∧
        t.answer = [dataFrame ["STATUS".toList, "RUNNING".toList]] ∧
        (t.now.since ⟨0⟩).nanos < t.checked.totalTime.span.nanos := by
  intro lines turn
  obtain ⟨hcount, hturns⟩ := runs_accounted atRest lines
  have hstarts : (atRest.turns lines).countP (·.StartsRun) = 2 := by decide +kernel
  have hidle : (atRest.takeAll lines).runningSince = none := by decide +kernel
  have hmem {place : Nat} {t : Turn} (h : turn place = some t) : t ∈ atRest.turns lines :=
    List.mem_of_getElem? h
  have hidleBefore : atRest.runningSince = none := rfl
  simp only [hstarts, hidle, hidleBefore, Option.isSome_none, Bool.toNat_false, Nat.add_zero]
    at hcount
  refine ⟨hcount, by decide +kernel, ?_, ?_, ?_⟩
  · obtain ⟨t, ht, hstart, hrun⟩ : ∃ t ∈ turn 2,
        Asks "START" t.line ∧ t.checked.runningSince.isSome = true := by decide +kernel
    obtain ⟨-, hanswer, -⟩ := hturns t (hmem ht)
    exact ⟨t, ht, hstart, (hanswer hstart).trans (if_pos hrun)⟩
  · obtain ⟨t, ht, hrun, hzero, hstop⟩ : ∃ t ∈ turn 3, t.board.runningSince = some ⟨0⟩ ∧
        t.board.totalTime.span.nanos = 0 ∧ ¬ Asks "STOP" t.line := by decide +kernel
    obtain ⟨-, -, -, -, hzeroTime⟩ := hturns t (hmem ht)
    exact ⟨t, ht, hzero, hstop, hzeroTime _ hrun hzero hstop⟩
  · obtain ⟨t, ht, hstatus, hrun, htotal⟩ : ∃ t ∈ turn 4, Asks "STATUS" t.line ∧
        t.checked.runningSince = some ⟨0⟩ ∧ t.checked.totalTime.span.nanos ≠ 0 := by
      decide +kernel
    obtain ⟨-, -, hanswer, hlasts, -⟩ := hturns t (hmem ht)
    refine ⟨t, ht, hstatus, ?_, hlasts _ hrun htotal⟩
    rw [hanswer hstatus, hrun]
    rfl

end Board

end TimingBoard
