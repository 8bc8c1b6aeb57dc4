import Mathlib.Tactic.Lemma
import TimingBoard.Board.Basic
import TimingBoard.Client.Basic

/-!
# Effects of commands on the board

The board reads a change from the argument of a `SET`: the first word is the key, and the rest is
the value.  A change that can be read is made, and anything else leaves the board as it is.  So
whatever the argument, all that can happen to the board is a single change.

The argument of an `MSR` is a key and a value too.  It starts the run or ends it, takes measurements
out of the list, or only asks, and then the board stays as it is.

Both are said once here, with the frames that are answered.  What holds of every effect then holds
of every answer.
-/

namespace TimingBoard

namespace Setting

/-- The board after a change. -/
def apply (b : Board) : Setting → Board
  | .timing key value => b.setTiming key value
  | .filePrefix value => { b with filePrefix := value }
  | .autosave count => { b with autosave := count }
  | .format number => { b with format := number }
  | .monitor value => { b with monitor := value }

/-- A change that the board reads from a key and a value. -/
def IsReadFrom (key value : Text) : Setting → Prop
  | .timing setting t => TimingKey.ofWord? key = some setting ∧ Board.settableTime? value = some t
  | .filePrefix name => key = "PREFIX".toList ∧ value = name ∧ name ≠ []
  | .autosave count => key = "AUTOSAVE".toList ∧ Natural.readUInt32? value = some count
  | .format number => key = "FORMAT".toList ∧ Natural.readUInt32? value = some number
  | .monitor (some m) => key = "MONITOR".toList ∧ Board.monitor? value = some m
  | .monitor none => key = "NOMONITOR".toList

end Setting

namespace Board

/-! ## Settings -/

variable {argument key value : Text}

/-- A change that can be read is accepted and made. -/
lemma answerSet_of_isReadFrom {setting : Setting} (hcut : Text.cutAtSpace argument = (key, value))
    (h : setting.IsReadFrom key value) (b : Board) :
    b.answerSet argument = (accepted, setting.apply b) := by
  unfold answerSet
  rw [hcut]
  cases setting with
  | timing setting t =>
    obtain ⟨hkey, hvalue⟩ := h
    simp only [hkey, hvalue]
    rfl
  | filePrefix name =>
    obtain ⟨rfl, rfl, hname⟩ := h
    have hother : TimingKey.ofWord? "PREFIX".toList = none := by decide
    simp only [hother, if_true, if_neg hname]
    rfl
  | autosave count =>
    obtain ⟨rfl, hvalue⟩ := h
    have hother : TimingKey.ofWord? "AUTOSAVE".toList = none := by decide
    simp only [hother, hvalue]
    rw [if_neg (by decide), if_neg (by decide), if_pos trivial]
    rfl
  | format number =>
    obtain ⟨rfl, hvalue⟩ := h
    have hother : TimingKey.ofWord? "FORMAT".toList = none := by decide
    simp only [hother, hvalue]
    rw [if_neg (by decide), if_pos trivial]
    rfl
  | monitor monitor =>
    cases monitor with
    | some m =>
      obtain ⟨rfl, hvalue⟩ := h
      have hother : TimingKey.ofWord? "MONITOR".toList = none := by decide
      simp only [hother, hvalue]
      rw [if_neg (by decide), if_neg (by decide), if_neg (by decide), if_pos trivial]
      rfl
    | none =>
      have hkey : key = "NOMONITOR".toList := h
      have hother : TimingKey.ofWord? "NOMONITOR".toList = none := by decide
      rw [hkey]
      simp only [hother]
      rw [if_neg (by decide), if_neg (by decide), if_neg (by decide), if_neg (by decide),
        if_pos trivial]
      rfl

/-- An argument is a change that is made, or it is rejected and changes nothing. -/
lemma answerSet_cases (hcut : Text.cutAtSpace argument = (key, value)) (b : Board) :
    (∃ setting : Setting, setting.IsReadFrom key value ∧
        b.answerSet argument = (accepted, setting.apply b)) ∨
      b.answerSet argument = (rejected "2:BAD_TIMESTRING", b) ∨
      b.answerSet argument = (badParameter, b) := by
  by_cases hchange : ∃ setting : Setting, setting.IsReadFrom key value
  · obtain ⟨setting, hsetting⟩ := hchange
    exact Or.inl ⟨setting, hsetting, answerSet_of_isReadFrom hcut hsetting b⟩
  right
  have hnone (setting : Setting) : ¬ setting.IsReadFrom key value := fun h => hchange ⟨setting, h⟩
  unfold answerSet
  rw [hcut]
  rcases hkey : TimingKey.ofWord? key with _ | timing
  · have hname (hword : key = "PREFIX".toList) : value = [] :=
      Decidable.byContradiction fun hne => hnone (.filePrefix value) ⟨hword, rfl, hne⟩
    have hformat (hword : key = "FORMAT".toList) : Natural.readUInt32? value = none :=
      Option.eq_none_iff_forall_ne_some.2 fun n hn => hnone (.format n) ⟨hword, hn⟩
    have hautosave (hword : key = "AUTOSAVE".toList) : Natural.readUInt32? value = none :=
      Option.eq_none_iff_forall_ne_some.2 fun n hn => hnone (.autosave n) ⟨hword, hn⟩
    have hmonitor (hword : key = "MONITOR".toList) : monitor? value = none :=
      Option.eq_none_iff_forall_ne_some.2 fun m hm => hnone (.monitor (some m)) ⟨hword, hm⟩
    have hoff : key ≠ "NOMONITOR".toList := hnone (.monitor none)
    right
    simp only [hkey, if_neg hoff]
    split
    · next hword =>
      rw [if_pos (hname hword)]
      rfl
    split
    · next hword =>
      rw [hformat hword]
      rfl
    split
    · next hword =>
      rw [hautosave hword]
      rfl
    split
    · next hword =>
      rw [hmonitor hword]
      rfl
    · rfl
  · have htime : settableTime? value = none :=
      Option.eq_none_iff_forall_ne_some.2 fun t ht => hnone (.timing timing t) ⟨hkey, ht⟩
    left
    simp only [hkey, htime]

/-- What holds of a board, and after each change that can be read from an argument, holds after the
argument. -/
lemma of_answerSet {P : Board → Prop} {b : Board} (h : P b)
    (happly : ∀ setting : Setting,
      setting.IsReadFrom (Text.cutAtSpace argument).1 (Text.cutAtSpace argument).2 →
        P (setting.apply b)) : P (b.answerSet argument).2 := by
  rcases answerSet_cases rfl b with ⟨setting, hread, hset⟩ | hset | hset
  · rw [hset]
    exact happly setting hread
  · rw [hset]
    exact h
  · rw [hset]
    exact h

/-! ## Measurements -/

/-- The reasons for which a command about measurements is rejected. -/
def measureReasons : List String :=
  ["9:START", "8:STAT", "4:SAVE", "5:DELETE", "3:BAD_PARAMETER"]

/-- What the board does about measurements for a key and a value, with the frames of its answer. -/
inductive Measures (now : Instant) (key value : Text) (b : Board) : List Frame × Board → Prop
  | started : key = "START".toList → b.runningSince = none →
      Measures now key value b (accepted, { b with runningSince := some now })
  | stopped : key = "STOP".toList → Measures now key value b (accepted, b.endRun now)
  | status : key = "STATUS".toList → Measures now key value b
      ([dataFrame ["STATUS".toList, if b.runningSince.isSome then "RUNNING".toList
        else "IDLE".toList]], b)
  | listed : key = "LST".toList ∨ key = "LIST".toList → Measures now key value b
      (dataFrame ["LST".toList, "NUM".toList, Natural.digits b.measurements.length] ::
        b.measurements.mapIdx measurementFrame, b)
  | statistics {starts : UInt32} : key = "STAT".toList →
      (Natural.read? UInt64.size (value.dropWhile (· == '-'))).bind (b.measurements[·]?) =
        some starts → Measures now key value b ([statisticsFrame starts], b)
  | saved : key = "SAV".toList ∨ key = "SAVE".toList → Measures now key value b (accepted, b)
  | deleted {place : Nat} : key = "DEL".toList → b.place? value = some place →
      Measures now key value b
        (accepted, { b with measurements := b.measurements.eraseIdx place })
  | cleared : key = "CLR".toList →
      Measures now key value b (accepted, { b with measurements := [] })
  | rejected {reason : String} : reason ∈ measureReasons →
      Measures now key value b (rejected reason, b)

/-- An answer about measurements by its key. -/
lemma measures_answerMeasure (now : Instant) (argument : Text) (b : Board) :
    Measures now (Text.cutAtSpace argument).1 (Text.cutAtSpace argument).2 b
      (b.answerMeasure now argument) := by
  unfold answerMeasure
  simp only
  split
  · next hkey =>
    split
    · exact .rejected (by simp [measureReasons])
    · next hidle => exact .started hkey hidle
  split
  · next hkey => exact .stopped hkey
  split
  · next hkey => exact .status hkey
  split
  · next hkey => exact .listed hkey
  split
  · next hkey =>
    split
    · next starts hstarts => exact .statistics hkey hstarts
    · exact .rejected (by simp [measureReasons])
  split
  · next hkey =>
    split
    · exact .saved hkey
    · exact .rejected (by simp [measureReasons])
  split
  · next hkey =>
    split
    · next place hplace => exact .deleted hkey hplace
    · exact .rejected (by simp [measureReasons])
  split
  · next hkey => exact .cleared hkey
  · exact .rejected (by simp [measureReasons])

end Board

end TimingBoard
