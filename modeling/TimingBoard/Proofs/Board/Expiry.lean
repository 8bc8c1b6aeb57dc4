import TimingBoard.Proofs.Board.Alike

/-!
# When the end of a run is noticed

A run that has lasted the total time is not over for the board until a line arrives.  Its number of
starts depends on that moment, and so two boards that take different lines may store different
numbers for one run.  Such numbers are twins.

A board that has taken one line more may have noticed the end of a run that the other board still
has in progress.  The next line that both take makes them alike again: by then the other board finds
the run over too.
-/

namespace TimingBoard

/-- A line that arrives at a board, with its moment and the board as it is found. -/
structure Arrival where
  now : Instant
  board : Board

/-- A line that finds a run over, which began at a moment. -/
structure Arrival.EndsRun (since : Instant) (a : Arrival) : Prop where
  runningSince : a.board.runningSince = some since
  isOver : a.board.isOver a.now = true

/-- Numbers of starts that may stand for each other: equal ones, and those of a run that was over by
itself, as they are counted by two lines that find it over. -/
def Arrival.Twin (lines lines' : List Arrival) (n n' : UInt32) : Prop :=
  n = n' ∨ ∃ since, ∃ a ∈ lines, ∃ a' ∈ lines', a.EndsRun since ∧ a'.EndsRun since ∧
    n = Board.startsOf (a.now.since since) ∧ n' = Board.startsOf (a'.now.since since)

instance (lines lines' : List Arrival) : Std.Refl (Arrival.Twin lines lines') :=
  ⟨fun _ => Or.inl rfl⟩

/-- More time passes until a later moment. -/
lemma Instant.nanos_since_le {t t' : Instant} (h : t.nanos ≤ t'.nanos) (since : Instant) :
    (t.since since).nanos ≤ (t'.since since).nanos := by
  unfold Instant.since Span.ofNanos
  have hlongest : Span.longest.nanos = tooManyNanos - 1 := rfl
  split <;> split <;> simp only [hlongest] <;> omega

namespace Board

variable {twin : UInt32 → UInt32 → Prop} {b b' : Board} {since moment now : Instant} {line : Text}

/-- A run that is over stays over. -/
lemma isOver_mono (h : b.isOver moment = true) (hle : moment.nanos ≤ now.nanos) :
    b.isOver now = true := by
  unfold isOver at h ⊢
  split at h
  · simp at h
  · next since hrun =>
    have hlonger := Instant.nanos_since_le hle since
    simp only [Bool.and_eq_true, decide_eq_true_eq] at h ⊢
    exact ⟨h.1, h.2.trans hlonger⟩

/-- A run that is over is in progress. -/
lemma exists_since_of_isOver (h : b.isOver now = true) : ∃ since, b.runningSince = some since := by
  unfold isOver at h
  split at h
  · simp at h
  · next since hrun => exact ⟨since, hrun⟩

/-- A line that finds a run over stores its measurement. -/
lemma prepared_of_isOver (hrun : b.runningSince = some since) (hover : b.isOver now = true)
    (line : Text) : b.prepared now line = { b with
      received := b.received ++ [line]
      runningSince := none
      measurements := b.measurements ++ [startsOf (now.since since)] } := by
  have hover' : Board.isOver now { b with received := b.received ++ [line] } = true := hover
  rw [prepared, expire, if_pos hover', endRun]
  simp only [hrun]

/-- Any other line only arrives. -/
lemma prepared_of_not_isOver (hover : b.isOver now = false) (line : Text) :
    b.prepared now line = { b with received := b.received ++ [line] } := by
  have hover' : Board.isOver now { b with received := b.received ++ [line] } = false := hover
  rw [prepared, expire, hover']
  rfl

/-- The second board has found the run in progress over, at a moment, and is like the first in all
else. -/
structure IsAhead (twin : UInt32 → UInt32 → Prop) (since moment : Instant) (b b' : Board) :
    Prop where
  settings : SameSettings b b'
  runningSince : b.runningSince = some since
  isOver : b.isOver moment = true
  isIdle : b'.runningSince = none
  measurements : ∃ starts', b'.measurements = starts' ++ [startsOf (moment.since since)] ∧
    List.Forall₂ twin b.measurements starts'

/-- A board that finds a run over is ahead of one alike. -/
lemma Alike.isAhead (h : b.Alike twin b') (hrun : b.runningSince = some since)
    (hover : b.isOver now = true) (line : Text) :
    IsAhead twin since now b (b'.prepared now line) := by
  have hprepared :=
    prepared_of_isOver (h.runningSince.trans hrun) ((h.isOver_eq now).trans hover) line
  refine ⟨h.settings.trans (sameSettings_prepared now line b'), hrun, hover, ?_, b'.measurements,
    ?_, h.measurements⟩ <;> rw [hprepared]

/-- A board that is ahead stays ahead when it takes a line. -/
lemma IsAhead.prepared_right (h : IsAhead twin since moment b b') (now : Instant) (line : Text) :
    IsAhead twin since moment b (b'.prepared now line) := by
  have hover : b'.isOver now = false := by
    rw [Board.isOver, h.isIdle]
  have hprepared := prepared_of_not_isOver hover line
  refine ⟨h.settings.trans (sameSettings_prepared now line b'), h.runningSince, h.isOver,
      ?_, ?_⟩ <;>
    rw [hprepared]
  · exact h.isIdle
  · exact h.measurements

/-- Both boards are alike once a line has found the run over on the first as well. -/
lemma IsAhead.prepared (h : IsAhead twin since moment b b') (hle : moment.nanos ≤ now.nanos)
    (htwin : twin (startsOf (now.since since)) (startsOf (moment.since since))) (line : Text) :
    (b.prepared now line).Alike twin (b'.prepared now line) := by
  have hright := h.prepared_right now line
  obtain ⟨starts', hmeasurements, hstarts⟩ := hright.measurements
  have hprepared := prepared_of_isOver h.runningSince (isOver_mono h.isOver hle) line
  refine ⟨(sameSettings_prepared now line b).symm.trans hright.settings, ?_, ?_⟩
  · rw [hprepared]
    exact hright.isIdle
  · rw [hprepared, hmeasurements]
    exact List.rel_append hstarts (.cons htwin .nil)

/-- The first board would be like the second had it noticed the end of the run at the same
moment. -/
lemma IsAhead.endRun [Std.Refl twin] (h : IsAhead twin since moment b b') :
    (b.endRun moment).Alike twin b' := by
  obtain ⟨starts', hmeasurements, hstarts⟩ := h.measurements
  have hended : b.endRun moment = { b with
      runningSince := none
      measurements := b.measurements ++ [startsOf (moment.since since)] } := by
    rw [Board.endRun, h.runningSince]
  refine ⟨(sameSettings_endRun moment b).symm.trans h.settings, ?_, ?_⟩
  · rw [hended]
    exact h.isIdle
  · rw [hended, hmeasurements]
    exact List.rel_append hstarts (List.forall₂_refl _)

/-! ## Boards that take different lines -/

/-- The second board has taken more lines than the first, up to a moment: it is like the first, or
one of its lines has found a run over that the first still has in progress. -/
inductive Near (lines lines' : List Arrival) (now : Instant) (b b' : Board) : Prop
  | alike : b.Alike (Arrival.Twin lines lines') b' → Near lines lines' now b b'
  | ahead {since : Instant} {a : Arrival} : a ∈ lines' → a.EndsRun since → a.now.nanos ≤ now.nanos →
      IsAhead (Arrival.Twin lines lines') since a.now b b' → Near lines lines' now b b'

namespace Near

variable {lines lines' : List Arrival} {before : Instant} (h : Near lines lines' before b b')

include h

lemma settings : SameSettings b b' := by
  cases h with
  | alike halike => exact halike.settings
  | ahead _ _ _ hahead => exact hahead.settings

variable (hle : before.nanos ≤ now.nanos)

include hle

/-- A line that only the second board takes leaves it near. -/
lemma prepared_right (hline : ⟨now, b'⟩ ∈ lines') (line : Text) :
    Near lines lines' now b (b'.prepared now line) := by
  cases h with
  | alike halike =>
    -- The line counts only if it finds the run over, which it does on both boards or on none.
    cases hover : b.isOver now with
    | true =>
      obtain ⟨since, hrun⟩ := exists_since_of_isOver hover
      refine .ahead hline ⟨halike.runningSince.trans hrun, ?_⟩ le_rfl
        (halike.isAhead hrun hover line)
      exact (halike.isOver_eq now).trans hover
    | false =>
      rw [prepared_of_not_isOver ((halike.isOver_eq now).trans hover)]
      exact .alike (halike.withRuns halike.runningSince halike.measurements b.received _)
  | ahead hmem hends hmoment hahead =>
    exact .ahead hmem hends (hmoment.trans hle) (hahead.prepared_right now line)

/-- A line that both boards take finds them alike. -/
lemma prepared (hline : ⟨now, b⟩ ∈ lines) (line : Text) :
    (b.prepared now line).Alike (Arrival.Twin lines lines') (b'.prepared now line) := by
  cases h with
  | alike halike => exact halike.prepared now line
  | ahead hmem hends hmoment hahead =>
    have hlater := hmoment.trans hle
    have hends' : Arrival.EndsRun _ ⟨now, b⟩ :=
      ⟨hahead.runningSince, isOver_mono hahead.isOver hlater⟩
    exact hahead.prepared hlater (Or.inr ⟨_, _, hline, _, hmem, hends', hends, rfl, rfl⟩) line

end Near

end Board

end TimingBoard
