import Mathlib.Data.List.Forall2
import TimingBoard.Proofs.Board.Settings

/-!
# Boards that differ in numbers of starts

Two boards with the same settings, the same run in progress and equally many measurements answer
alike. Only the number of starts of a measurement shows in an answer, in the list and in the
statistics, and there the answers differ as the boards do.

Which numbers may stand for each other is left open here: it is any relation in which every number
stands for itself.  A line that both boards take leaves them alike.
-/

namespace List

variable {α : Type} {R : α → α → Prop} {l l' : List α}

/-- Related lists have related elements at the same places. -/
lemma Forall₂.getElem?_cases (h : Forall₂ R l l') (n : Nat) :
    (l[n]? = none ∧ l'[n]? = none) ∨ ∃ a a', l[n]? = some a ∧ l'[n]? = some a' ∧ R a a' := by
  induction h generalizing n with
  | nil => simp
  | cons hhead htail ih =>
    cases n with
    | zero => simpa using hhead
    | succ n => simpa using ih n

/-- Related lists are related without the elements at one place. -/
lemma Forall₂.eraseIdx (h : Forall₂ R l l') (n : Nat) :
    Forall₂ R (l.eraseIdx n) (l'.eraseIdx n) := by
  induction h generalizing n with
  | nil => exact .nil
  | cons hhead htail ih =>
    cases n with
    | zero => exact htail
    | succ n => exact .cons hhead (ih n)

end List

namespace TimingBoard

/-- A command about measurements with one of some keys. -/
structure Command.AsksFor (keys : List Text) (c : Command) : Prop where
  verb : c.verb = .measure
  key_mem : (Text.cutAtSpace c.argument).1 ∈ keys

namespace Board

variable {twin : UInt32 → UInt32 → Prop} {b b' : Board} {c : Command} {now : Instant}

/-- Boards that differ in nothing but numbers of starts, each of which has its twin. -/
structure Alike (twin : UInt32 → UInt32 → Prop) (b b' : Board) : Prop where
  settings : SameSettings b b'
  runningSince : b'.runningSince = b.runningSince
  measurements : List.Forall₂ twin b.measurements b'.measurements

/-- Answers to a command that differ in nothing but numbers of starts: the list, which can be
counted in 64 bits, and the statistics of a measurement. -/
inductive FramesAlike (twin : UInt32 → UInt32 → Prop) (c : Command) : List Frame → List Frame → Prop
  | same (frames : List Frame) : FramesAlike twin c frames frames
  | listed {starts starts' : List UInt32} : c.AsksFor ["LST".toList, "LIST".toList] →
      starts.length < UInt64.size → List.Forall₂ twin starts starts' → FramesAlike twin c
        (dataFrame ["LST".toList, "NUM".toList, Natural.digits starts.length] ::
          starts.mapIdx measurementFrame)
        (dataFrame ["LST".toList, "NUM".toList, Natural.digits starts'.length] ::
          starts'.mapIdx measurementFrame)
  | statistics {n n' : UInt32} : c.AsksFor ["STAT".toList] → twin n n' →
      FramesAlike twin c [statisticsFrame n] [statisticsFrame n']

/-- An answer to a command and the board after it, on two boards alike. -/
structure AnswersAlike (twin : UInt32 → UInt32 → Prop) (c : Command)
    (answer answer' : List Frame × Board) : Prop where
  frames : FramesAlike twin c answer.1 answer'.1
  boards : answer.2.Alike twin answer'.2

namespace Alike

variable (h : b.Alike twin b')

include h

lemma timing_eq (key : TimingKey) : b'.timing key = b.timing key :=
  h.settings.timing key

lemma length_eq : b'.measurements.length = b.measurements.length :=
  h.measurements.length_eq.symm

/-- A run is over on both boards or on none. -/
lemma isOver_eq (now : Instant) : b'.isOver now = b.isOver now := by
  have htotal : b'.totalTime = b.totalTime := h.settings.timing .totalTime
  unfold isOver
  rw [h.runningSince, htotal]

lemma place?_eq (t : Text) : b'.place? t = b.place? t := by
  unfold place?
  rw [h.length_eq]

/-- Boards stay alike with the same run in progress and with measurements that are twins, whatever
lines arrived. -/
lemma withRuns {since since' : Option Instant} (hsince : since' = since)
    {starts starts' : List UInt32} (hstarts : List.Forall₂ twin starts starts')
    (lines lines' : List Text) :
    Alike twin { b with runningSince := since, measurements := starts, received := lines }
      { b' with runningSince := since', measurements := starts', received := lines' } := by
  obtain ⟨⟨htiming, hprefix, hautosave, hformat, hmonitor, hagents, hmute, hnoisy⟩, -, -⟩ := h
  refine ⟨⟨fun key => ?_, hprefix, hautosave, hformat, hmonitor, hagents, hmute, hnoisy⟩, hsince,
    hstarts⟩
  have htime := htiming key
  cases key <;> exact htime

section Refl

variable [Std.Refl twin]

/-- A run that ends at the same moment on both has the same number of starts. -/
lemma endRun (now : Instant) : (b.endRun now).Alike twin (b'.endRun now) := by
  unfold Board.endRun
  rw [h.runningSince]
  split
  · exact h
  · exact h.withRuns rfl (List.rel_append h.measurements (List.forall₂_refl _)) _ _

lemma prepared (now : Instant) (line : Text) :
    (b.prepared now line).Alike twin (b'.prepared now line) := by
  have hnoted : Alike twin { b with received := b.received ++ [line] }
      { b' with received := b'.received ++ [line] } :=
    h.withRuns h.runningSince h.measurements _ _
  unfold Board.prepared expire
  rw [hnoted.isOver_eq]
  split
  · exact hnoted.endRun now
  · exact hnoted

end Refl

/-! ## Settings -/

/-- The same settings are read. -/
lemma answerGet_eq (argument : Text) : b'.answerGet argument = b.answerGet argument := by
  unfold answerGet
  simp only [h.timing_eq, h.settings.filePrefix, h.settings.autosave, h.settings.format,
    h.settings.monitor, h.settings.agents]

/-- The same change leaves boards alike. -/
lemma apply (setting : Setting) : (setting.apply b).Alike twin (setting.apply b') := by
  refine ⟨h.settings.apply setting, ?_, ?_⟩
  · cases setting with
    | timing key value => cases key <;> exact h.runningSince
    | _ => exact h.runningSince
  · cases setting with
    | timing key value => cases key <;> exact h.measurements
    | _ => exact h.measurements

/-- A change is made on both boards or on none. -/
lemma change_map {α : Type} (read : Option α) (setting : α → Setting) :
    (b'.change (read.map fun a => (setting a).apply b')).1 =
        (b.change (read.map fun a => (setting a).apply b)).1 ∧
      (b.change (read.map fun a => (setting a).apply b)).2.Alike twin
        (b'.change (read.map fun a => (setting a).apply b')).2 := by
  cases read with
  | none => exact ⟨rfl, h⟩
  | some a => exact ⟨rfl, h.apply (setting a)⟩

/-- A `SET` has the same answer. -/
lemma answerSet (argument : Text) : (b'.answerSet argument).1 = (b.answerSet argument).1 ∧
    (b.answerSet argument).2.Alike twin (b'.answerSet argument).2 := by
  unfold Board.answerSet
  simp only
  cases TimingKey.ofWord? (Text.cutAtSpace argument).1 with
  | some key =>
    cases settableTime? (Text.cutAtSpace argument).2 with
    | some value => exact ⟨rfl, h.apply (.timing key value)⟩
    | none => exact ⟨rfl, h⟩
  | none =>
    simp only
    split
    · split
      · exact ⟨rfl, h⟩
      · exact ⟨rfl, h.apply (.filePrefix _)⟩
    split
    · exact h.change_map (Natural.readUInt32? _) Setting.format
    split
    · exact h.change_map (Natural.readUInt32? _) Setting.autosave
    split
    · exact h.change_map (monitor? _) fun m => Setting.monitor (some m)
    split
    · exact ⟨rfl, h.apply (.monitor none)⟩
    · exact ⟨rfl, h⟩

/-! ## Measurements -/

/-- A command about measurements has answers alike. -/
lemma answerMeasure [Std.Refl twin] (hcount : b.measurements.length < UInt64.size)
    (hverb : c.verb = .measure) (now : Instant) :
    AnswersAlike twin c (b.answerMeasure now c.argument) (b'.answerMeasure now c.argument) := by
  unfold Board.answerMeasure
  simp only
  -- The keys in the order in which the board looks for them.
  split
  · rw [h.runningSince]
    cases b.runningSince with
    | some since => exact ⟨.same _, h⟩
    | none => exact ⟨.same _, h.withRuns rfl h.measurements _ _⟩
  split
  · exact ⟨.same _, h.endRun now⟩
  split
  · rw [h.runningSince]
    exact ⟨.same _, h⟩
  split
  · next hkey => exact ⟨.listed ⟨hverb, by simpa using hkey⟩ hcount h.measurements, h⟩
  split
  · next hkey =>
    cases hread : Natural.read? UInt64.size
      ((Text.cutAtSpace c.argument).2.dropWhile (· == '-')) with
    | none => exact ⟨.same _, h⟩
    | some place =>
      simp only [Option.bind_some]
      obtain ⟨hnone, hnone'⟩ | ⟨n, n', hsome, hsome', htwin⟩ :=
        h.measurements.getElem?_cases place
      · rw [hnone, hnone']
        exact ⟨.same _, h⟩
      · rw [hsome, hsome']
        exact ⟨.statistics ⟨hverb, by simpa using hkey⟩ htwin, h⟩
  split
  · rw [h.place?_eq]
    split
    · exact ⟨.same _, h⟩
    · exact ⟨.same _, h⟩
  split
  · rw [h.place?_eq]
    cases b.place? (Text.cutAtSpace c.argument).2 with
    | some place =>
      exact ⟨.same _, h.withRuns h.runningSince (h.measurements.eraseIdx place) _ _⟩
    | none => exact ⟨.same _, h⟩
  split
  · exact ⟨.same _, h.withRuns h.runningSince .nil _ _⟩
  · exact ⟨.same _, h⟩

end Alike

/-! ## Lines -/

/-- A command that finds boards alike once they are prepared for it leaves them alike, with answers
alike. -/
lemma Alike.handle [Std.Refl twin] (h : (b.prepared now c.line).Alike twin (b'.prepared now c.line))
    (hcount : (b.prepared now c.line).measurements.length < UInt64.size) :
    AnswersAlike twin c (b.handle now c.line) (b'.handle now c.line) := by
  rw [handle_line, handle_line]
  cases hverb : c.verb with
  | set =>
    obtain ⟨hframes, hboards⟩ := h.answerSet c.argument
    refine ⟨?_, hboards⟩
    rw [hframes]
    exact .same _
  | get =>
    refine ⟨?_, h⟩
    simp only [h.answerGet_eq]
    exact .same _
  | measure => exact h.answerMeasure hcount hverb now
  | extend => exact ⟨.same _, h⟩

end Board

end TimingBoard
