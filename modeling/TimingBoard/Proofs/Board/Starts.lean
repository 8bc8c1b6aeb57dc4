import TimingBoard.Proofs.Board.Runs

/-!
# The starts of the runs that are recorded

A board records a run by its number of starts: one for every ten milliseconds that it lasted, and at
least one.  The run lasts from the line that started it to the line that ended it, which is a stop,
or the first line of any kind that finds the run over.  So the runs that are recorded are told by
the lines alone: they begin where a start is accepted, one after the other in this order, and the
last of them may still be in progress.

The number of starts is cut down to 32 bits when it is stored, after it was made at least one.  As
long as it fits this changes nothing.  It no longer fits once a run has lasted 2 ^ 32 times ten
milliseconds, which are 497 days, and then the record starts again at zero: there are runs without a
start, and runs with fewer starts than shorter ones.
-/

namespace TimingBoard

namespace Board

/-- A run from the moment it began to the moment of the line that ended it. -/
structure Run where
  began : Instant
  ended : Instant
  deriving DecidableEq

namespace Run

/-- How long a run lasted. -/
def length (r : Run) : Span := r.ended.since r.began

/-- The starts of a run: one for every ten milliseconds, and at least one. -/
def starts (r : Run) : Nat := max 1 (r.length.millis / 10)

/-- The number that is recorded for a run. -/
def recorded (r : Run) : UInt32 := startsOf r.length

/-- The starts of a run fit into 32 bits. -/
def Fits (r : Run) : Prop := r.starts < UInt32.size

/-- The record of a run as it should be: it has a start, it is the number of starts where that fits,
and it is not smaller than the record of any shorter run. -/
structure IsCounted (r : Run) : Prop where
  one_le : 1 ≤ r.recorded
  toNat_eq : r.Fits → r.recorded.toNat = r.starts
  le_of_shorter : ∀ shorter : Run, shorter.length.nanos < r.length.nanos →
    shorter.recorded ≤ r.recorded

variable (r : Run)

/-! ## Numbers of starts -/

/-- What is recorded of the number of starts is its remainder. -/
lemma toNat_recorded : r.recorded.toNat = r.starts % UInt32.size := by
  rw [recorded, startsOf, UInt32.toNat_ofNat', starts, max_comm]

lemma one_le_starts : 1 ≤ r.starts :=
  le_max_left _ _

/-- The number of starts fits exactly until the run has lasted 2 ^ 32 times ten milliseconds. -/
lemma fits_iff : r.Fits ↔ r.length.nanos < UInt32.size * 10000000 := by
  simp only [Fits, starts, Span.millis, UInt32.size]
  omega

variable {r}

/-- A shorter run does not have more starts. -/
lemma starts_mono {shorter : Run} (h : shorter.length.nanos ≤ r.length.nanos) :
    shorter.starts ≤ r.starts := by
  simp only [starts, Span.millis]
  omega

/-- The number of starts is recorded exactly if it fits. -/
lemma toNat_recorded_eq_iff : r.recorded.toNat = r.starts ↔ r.Fits := by
  rw [toNat_recorded, Nat.mod_eq_iff_lt (by decide), Fits]

/-- A run is recorded without a start exactly if its number of starts is a multiple of 2 ^ 32. -/
lemma recorded_eq_zero_iff : r.recorded = 0 ↔ UInt32.size ∣ r.starts := by
  rw [← UInt32.toNat_inj, toNat_recorded, Nat.dvd_iff_mod_eq_zero]
  rfl

/-- What fits is recorded as it should be. -/
lemma Fits.isCounted (h : r.Fits) : r.IsCounted where
  one_le := by
    rw [UInt32.le_iff_toNat_le, toNat_recorded_eq_iff.2 h]
    exact r.one_le_starts
  toNat_eq := toNat_recorded_eq_iff.2
  le_of_shorter shorter hshorter := by
    have hle : shorter.starts ≤ r.starts := starts_mono hshorter.le
    have hfits : shorter.Fits := hle.trans_lt h
    rwa [UInt32.le_iff_toNat_le, toNat_recorded_eq_iff.2 hfits, toNat_recorded_eq_iff.2 h]

/-- The shortest run with the largest number of starts that fits. -/
def fullest : Run := ⟨⟨0⟩, ⟨(UInt32.size - 1) * 10000000⟩⟩

lemma recorded_fullest : fullest.recorded.toNat = UInt32.size - 1 := by
  decide +kernel

/-- The record of a run is as it should be exactly if the number of starts fits, or happens to leave
the largest remainder. -/
lemma isCounted_iff : r.IsCounted ↔ r.Fits ∨ r.starts % UInt32.size = UInt32.size - 1 := by
  rw [← toNat_recorded]
  constructor
  · intro hcounted
    refine or_iff_not_imp_left.2 fun hnot => ?_
    -- A run whose starts do not fit is longer than the fullest one, so that only one record is left
    -- for it.
    have hlong : UInt32.size * 10000000 ≤ r.length.nanos := not_lt.1 (mt r.fits_iff.2 hnot)
    have hshorter : fullest.length.nanos < r.length.nanos := lt_of_lt_of_le (by decide) hlong
    have hle := UInt32.le_iff_toNat_le.1 (hcounted.le_of_shorter fullest hshorter)
    rw [recorded_fullest] at hle
    exact le_antisymm (Nat.le_sub_one_of_lt r.recorded.toNat_lt_size) hle
  · rintro (hfits | hlargest)
    · exact hfits.isCounted
    · refine ⟨?_, toNat_recorded_eq_iff.2, fun shorter _ => ?_⟩
      · rw [UInt32.le_iff_toNat_le, hlargest]
        decide
      · rw [UInt32.le_iff_toNat_le, hlargest]
        exact Nat.le_sub_one_of_lt shorter.recorded.toNat_lt_size

end Run

/-! ## Runs that end -/

variable (now : Instant) (b : Board)

/-- The run in progress, if it ends at a moment. -/
def runAt : List Run :=
  b.runningSince.toList.map fun began => ⟨began, now⟩

/-- The run that is found over. -/
def runOver : List Run :=
  if b.isOver now then b.runAt now else []

lemma began_runAt : (b.runAt now).map Run.began = b.runningSince.toList := by
  simp [runAt, Function.comp_def]

lemma recorded_runAt : (b.runAt now).map Run.recorded = b.recordAt now := by
  rw [runAt, List.map_map]
  rfl

lemma recorded_runOver : (b.runOver now).map Run.recorded = b.expired now := by
  rw [runOver, expired, apply_ite (List.map Run.recorded), recorded_runAt, List.map_nil]

/-- A run that is in progress before a line is found over by it, or is still in progress. -/
lemma began_runOver (line : Text) : (b.runOver now).map Run.began ++
    (b.prepared now line).runningSince.toList = b.runningSince.toList := by
  rw [prepared_eq, runOver]
  cases b.isOver now with
  | true => simp [began_runAt]
  | false => simp

end Board

namespace Turn

open Board

variable (t : Turn)

/-- The run that the line stops. -/
def runStopped : List Run :=
  if Asks "STOP" t.line then t.checked.runAt t.now else []

/-- The runs that end in a turn, in their order. -/
def runs : List Run := t.board.runOver t.now ++ t.runStopped

/-- A turn records the runs that end in it. -/
lemma recorded_runs : t.runs.map Run.recorded = t.records := by
  rw [runs, List.map_append, recorded_runOver, records, runStopped, stopped,
    apply_ite (List.map Run.recorded), recorded_runAt, List.map_nil]

/-- A run ends at the moment of the line. -/
lemma ended_of_mem_runs {t : Turn} {r : Run} (h : r ∈ t.runs) : r.ended = t.now := by
  have hrunAt {b : Board} (hr : r ∈ b.runAt t.now) : r.ended = t.now := by
    obtain ⟨began, -, rfl⟩ := List.mem_map.1 hr
    rfl
  rcases List.mem_append.1 h with hover | hstopped
  · exact hrunAt (List.mem_ite_nil_right.1 hover).2
  · exact hrunAt (List.mem_ite_nil_right.1 hstopped).2

/-- A run that is in progress when a line is answered, or is started by it, is stopped by it, or is
still in progress. -/
lemma began_runStopped : t.runStopped.map Run.began ++ t.after.runningSince.toList =
    t.checked.runningSince.toList ++ if t.StartsRun then [t.now] else [] := by
  have hstarts : t.StartsRun ↔ Asks "START" t.line ∧ t.answer = accepted := Iff.rfl
  have hidle {key : String} (hasks : Asks key t.line) (hkey : key.toList ≠ "STOP".toList) :
      t.runStopped = [] := if_neg fun hstop => hkey (hasks.key_eq hstop)
  have htreats := t.treats
  generalize t.after = after at htreats ⊢
  generalize t.answer = answer at htreats hstarts
  cases htreats with
  | started hasks hnone =>
    rw [if_pos (hstarts.2 ⟨hasks, rfl⟩), hidle hasks (by decide), hnone]
    rfl
  | refused hasks hrun =>
    rw [if_neg fun hstart => absurd (hstarts.1 hstart).2 (by decide), hidle hasks (by decide),
      List.append_nil]
    rfl
  | stopped hasks =>
    rw [if_neg (not_startsRun_of_asks hasks (by decide)), runStopped, if_pos hasks, began_runAt,
      endRun_eq]
    rfl
  | told hasks =>
    rw [if_neg (not_startsRun_of_asks hasks (by decide)), hidle hasks (by decide), List.append_nil]
    rfl
  | other hstart hstop _ hsame _ =>
    rw [if_neg fun h => hstart h.1, runStopped, if_neg hstop, hsame, List.append_nil]
    rfl

/-- The moments at which runs began, over one turn: those of the runs that end, and of the run that
is in progress afterwards. -/
lemma began_runs : t.runs.map Run.began ++ t.after.runningSince.toList =
    t.board.runningSince.toList ++ if t.StartsRun then [t.now] else [] := by
  have hover : (t.board.runOver t.now).map Run.began ++ t.checked.runningSince.toList =
      t.board.runningSince.toList := began_runOver t.now t.board t.line
  rw [runs, List.map_append, List.append_assoc, began_runStopped, ← List.append_assoc, hover]

end Turn

namespace Board

/-- The runs that end while a board takes lines, in their order. -/
def runs (lines : List (Instant × Text)) (b : Board) : List Run :=
  (b.turns lines).flatMap Turn.runs

/-- What a board records are the runs that end. -/
lemma recorded_runs (lines : List (Instant × Text)) (b : Board) :
    (b.runs lines).map Run.recorded = (b.turns lines).flatMap Turn.records := by
  rw [runs, List.map_flatMap]
  simp only [Turn.recorded_runs]

/-- The runs that end, and then the one that is in progress, began with the run that was in progress
at the beginning and with the starts that are accepted, in their order. -/
lemma began_runs (lines : List (Instant × Text)) (b : Board) :
    (b.runs lines).map Run.began ++ (b.takeAll lines).runningSince.toList =
      b.runningSince.toList ++ ((b.turns lines).filter (·.StartsRun)).map Turn.now := by
  induction lines generalizing b with
  | nil => simp [runs, turns, takeAll]
  | cons arrival rest ih =>
    obtain ⟨now, line⟩ := arrival
    let t : Turn := ⟨now, line, b⟩
    have hruns : b.runs ((now, line) :: rest) = t.runs ++ t.after.runs rest := rfl
    have hlast : b.takeAll ((now, line) :: rest) = t.after.takeAll rest := rfl
    have hstarts : ((b.turns ((now, line) :: rest)).filter (·.StartsRun)).map Turn.now =
        (if t.StartsRun then [t.now] else []) ++
          ((t.after.turns rest).filter (·.StartsRun)).map Turn.now := by
      change ((t :: t.after.turns rest).filter (·.StartsRun)).map Turn.now = _
      by_cases hstart : t.StartsRun <;> simp [hstart]
    rw [hruns, hlast, hstarts, List.map_append, List.append_assoc, ih, ← List.append_assoc,
      t.began_runs, List.append_assoc]

/-- **When the records of runs are right.**  A board takes any lines at any moments.  It records the
runs that end, each with the remainder of its number of starts by 2 ^ 32.  All records have a start,
are the number of starts where that fits, and are not smaller than those of shorter runs, exactly if
the number of starts of each run fits or happens to leave the largest remainder.  It fits exactly if
the run lasted less than 2 ^ 32 times ten milliseconds.  A number that does not fit is not recorded
as it is, and a multiple of 2 ^ 32 is recorded as no starts at all.

The runs are those that began with the starts that are accepted, after the one that was in progress
at the beginning and before the one that still is.  A run ends at the moment of the line that
records it, and its record is appended to the list of measurements. -/
theorem isCounted_runs_iff (b : Board) (lines : List (Instant × Text)) :
    ((∀ r ∈ b.runs lines, r.IsCounted) ↔
      ∀ r ∈ b.runs lines, r.Fits ∨ r.starts % UInt32.size = UInt32.size - 1) ∧
    (b.turns lines).flatMap Turn.records = (b.runs lines).map Run.recorded ∧
    (b.runs lines).map Run.began ++ (b.takeAll lines).runningSince.toList =
      b.runningSince.toList ++ ((b.turns lines).filter (·.StartsRun)).map Turn.now ∧
    (∀ t ∈ b.turns lines, t.records = t.runs.map Run.recorded ∧ (∀ r ∈ t.runs, r.ended = t.now) ∧
      ∃ left, Leaves t.line (t.board.measurements ++ t.board.expired t.now) left ∧
        t.after.measurements = left ++ t.stopped) ∧
    ∀ r : Run, r.recorded.toNat = r.starts % UInt32.size ∧
      (r.Fits ↔ r.length.nanos < UInt32.size * 10000000) ∧
      (r.recorded.toNat = r.starts ↔ r.Fits) ∧ (r.recorded = 0 ↔ UInt32.size ∣ r.starts) := by
  refine ⟨forall₂_congr fun _ _ => Run.isCounted_iff, (b.recorded_runs lines).symm,
    b.began_runs lines, fun t _ => ?_, fun r => ?_⟩
  · exact ⟨t.recorded_runs.symm, fun _ => Turn.ended_of_mem_runs, t.exists_leaves⟩
  · exact ⟨r.toNat_recorded, r.fits_iff, Run.toNat_recorded_eq_iff, Run.recorded_eq_zero_iff⟩

/-- Without a total time a run is stopped a millisecond before its number of starts no longer fits.
The next run is stopped at once. -/
theorem isCounted_runs_iff_longestFit :
    let lines := [(0, "SET TT 0s"), (0, "MSR START"), (42949672959, "MSR STOP"),
      (42949672959, "MSR START"), (42949672959, "MSR STOP")].map
        fun (millis, line) => (Instant.mk (millis * 1000000), line.toList)
    (∃ r ∈ atRest.runs lines, r.length.millis = 42949672959 ∧ r.IsCounted) ∧
      (atRest.turns lines).flatMap Turn.records = [4294967295, 1] ∧
      ∃ t ∈ (atRest.turns lines)[4]?, t.records = [1] ∧
        (∃ r ∈ t.runs, r.ended = ⟨42949672959000000⟩) ∧
        ∃ left, t.after.measurements = left ++ t.stopped := by
  intro lines
  obtain ⟨hcounted, hrecords, -, hturns, hrun⟩ := isCounted_runs_iff atRest lines
  let first : Run := ⟨⟨0⟩, ⟨42949672959000000⟩⟩
  let second : Run := ⟨⟨42949672959000000⟩, ⟨42949672959000000⟩⟩
  have hruns : atRest.runs lines = [first, second] := by decide +kernel
  have hfits (r : Run) (hmem : r ∈ [first, second]) : r.Fits := by
    refine (hrun r).2.1.2 ?_
    revert r
    decide
  refine ⟨⟨first, hruns ▸ List.mem_cons_self, by decide, ?_⟩, ?_, ?_⟩
  · exact hcounted.2 (fun r hmem => .inl (hfits r (hruns ▸ hmem))) first
      (hruns ▸ List.mem_cons_self)
  · rw [hrecords, hruns]
    decide
  · obtain ⟨t, ht, hsecond, hnow⟩ : ∃ t ∈ (atRest.turns lines)[4]?,
        t.runs = [second] ∧ t.now = ⟨42949672959000000⟩ := by decide +kernel
    obtain ⟨hrecord, hended, left, -, hstored⟩ := hturns t (List.mem_of_getElem? ht)
    have hmem : second ∈ t.runs := hsecond ▸ List.mem_singleton_self _
    refine ⟨t, ht, ?_, ⟨second, hmem, (hended second hmem).trans hnow⟩, left, hstored⟩
    rw [hrecord, hsecond]
    decide

/-- Without a total time three runs are stopped after 497 days.  The second is a second longer than
the first and is recorded with 54 starts, and the third, half a second longer than the first, with
none. -/
theorem not_isCounted_runs_afterMonths :
    let lines := [(0, "SET TT 0s"), (0, "MSR START"), (42949672500, "MSR STOP"),
      (42949672500, "MSR START"), (85899346000, "MSR STOP"), (85899346000, "MSR START"),
      (128849018960, "MSR STOP")].map
        fun (millis, line) => (Instant.mk (millis * 1000000), line.toList)
    (atRest.runs lines).map (·.length.millis) = [42949672500, 42949673500, 42949672960] ∧
      (atRest.runs lines).map Run.starts = [4294967250, 4294967350, 4294967296] ∧
      (atRest.takeAll lines).measurements = [4294967250, 54, 0] ∧
      ¬ ∀ r ∈ atRest.runs lines, r.IsCounted := by
  intro lines
  let third : Run := ⟨⟨85899346000000000⟩, ⟨128849018960000000⟩⟩
  have hmem : third ∈ atRest.runs lines := by decide +kernel
  refine ⟨by decide +kernel, by decide +kernel, by decide +kernel, fun hcounted => ?_⟩
  exact absurd (hcounted third hmem).one_le (by decide)

end Board

end TimingBoard
