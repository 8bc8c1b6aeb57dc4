import TimingBoard.Proofs.Board.Alike
import TimingBoard.Proofs.Reply.Measurements
import TimingBoard.Session.Log

/-!
# Replies that differ in numbers of starts

Answers that differ in nothing but numbers of starts are understood as replies that do.  The list of
measurements has the same places, and each place has a number and its twin; the statistics are those
of a number and of its twin.  Every other reply is the same, and so is every error.

Only the first frame of an answer is logged, so that the list leaves the same entry.
-/

namespace TimingBoard

/-- Results that are both answers, which are related, or the same error. -/
inductive ResultsAlike {α β : Type} (V : α → β → Prop) : Except Error α → Except Error β → Prop
  | ok {a : α} {b : β} : V a b → ResultsAlike V (.ok a) (.ok b)
  | error (e : Error) : ResultsAlike V (.error e) (.error e)

instance {α : Type} {V : α → α → Prop} [Std.Refl V] : Std.Refl (ResultsAlike V) :=
  ⟨fun result => by
    cases result with
    | ok a => exact .ok (Std.Refl.refl a)
    | error e => exact .error e⟩

variable {twin : UInt32 → UInt32 → Prop} {c : Command}

/-- Measurements with one place and with numbers of starts that are twins. -/
structure Measurement.Alike (twin : UInt32 → UInt32 → Prop) (m m' : Measurement) : Prop where
  id : m'.id = m.id
  starts : twin m.starts m'.starts

instance [Std.Refl twin] : Std.Refl (Measurement.Alike twin) :=
  ⟨fun m => ⟨rfl, Std.Refl.refl m.starts⟩⟩

/-- The same statistics, or those of a number of starts and of its twin. -/
inductive Statistics.Alike (twin : UInt32 → UInt32 → Prop) : Statistics → Statistics → Prop
  | same (line : Statistics) : Statistics.Alike twin line line
  | ofStarts {n n' : UInt32} : twin n n' → Statistics.Alike twin (.ofStarts n) (.ofStarts n')

instance : Std.Refl (Statistics.Alike twin) :=
  ⟨.same⟩

/-- Replies to a command that differ in nothing but numbers of starts. -/
inductive Reply.Alike (twin : UInt32 → UInt32 → Prop) (c : Command) : Reply → Reply → Prop
  | same (reply : Reply) : Reply.Alike twin c reply reply
  | measurements {list list' : List Measurement} : c.AsksFor ["LST".toList, "LIST".toList] →
      List.Forall₂ (Measurement.Alike twin) list list' →
      Reply.Alike twin c (.measurements list) (.measurements list')
  | statistics {line line' : Statistics} : c.AsksFor ["STAT".toList] → line.Alike twin line' →
      Reply.Alike twin c (.statistics line) (.statistics line')

instance : Std.Refl (Reply.Alike twin c) :=
  ⟨.same⟩

/-- Entries of the log that differ in nothing but the number of starts that statistics are about. -/
inductive LogEntry.Alike (twin : UInt32 → UInt32 → Prop) : LogEntry → LogEntry → Prop
  | same (entry : LogEntry) : LogEntry.Alike twin entry entry
  | statistics {n n' : UInt32} : twin n n' → LogEntry.Alike twin
      (.received (Board.statisticsFrame n)) (.received (Board.statisticsFrame n'))

instance : Std.Refl (LogEntry.Alike twin) :=
  ⟨.same⟩

/-- Logs with entries alike. -/
def CommandLog.Alike (twin : UInt32 → UInt32 → Prop) (log log' : CommandLog) : Prop :=
  List.Forall₂ (LogEntry.Alike twin) log.entries log'.entries

/-- Entries alike leave logs alike, whether or not the oldest ones are dropped. -/
lemma CommandLog.Alike.push {log log' : CommandLog} (h : log.Alike twin log')
    {entry entry' : LogEntry} (hentry : entry.Alike twin entry') :
    (log.push entry).Alike twin (log'.push entry') := by
  have hsize : log'.size = log.size := h.length_eq.symm
  have hlast : List.Forall₂ (LogEntry.Alike twin) [entry] [entry'] := .cons hentry .nil
  unfold CommandLog.push
  rw [hsize]
  split
  · exact List.rel_append (List.forall₂_drop 1 h) hlast
  · exact List.rel_append h hlast

namespace Board.FramesAlike

variable {first first' : Frame} {frames frames' rest rest' : List Frame}

/-- The entries of the log for answers alike. -/
lemma received (h : FramesAlike twin c (first :: rest) (first' :: rest')) :
    (LogEntry.received first.received).Alike twin (.received first'.received) := by
  generalize hframes : first :: rest = frames at h
  generalize hframes' : first' :: rest' = frames' at h
  cases h with
  | same =>
    obtain ⟨rfl, -⟩ := List.cons.inj (hframes.trans hframes'.symm)
    exact .same _
  | listed hkey hcount hstarts =>
    obtain ⟨rfl, -⟩ := List.cons.inj hframes
    obtain ⟨rfl, -⟩ := List.cons.inj hframes'
    rw [hstarts.length_eq]
    exact .same _
  | statistics hkey htwin =>
    obtain ⟨rfl, -⟩ := List.cons.inj hframes
    obtain ⟨rfl, -⟩ := List.cons.inj hframes'
    rw [received_statisticsFrame, received_statisticsFrame]
    exact .statistics htwin

end Board.FramesAlike

namespace Reply

open Board

/-- Lines of a list are read as measurements alike. -/
lemma alike_readMeasurement [Std.Refl twin] (place : Nat) {n n' : UInt32} (h : twin n n') :
    (readMeasurement (measurementFrame place n).received).Alike twin
      (readMeasurement (measurementFrame place n').received) := by
  rw [received_measurementFrame, received_measurementFrame, readMeasurement_measurementFrame,
    readMeasurement_measurementFrame]
  cases Natural.readUInt32? (Natural.digits place) with
  | none => exact Std.Refl.refl Measurement.placeholder
  | some id => exact ⟨rfl, h⟩

lemma alike_map_readMeasurement [Std.Refl twin] {starts starts' : List UInt32}
    (h : List.Forall₂ twin starts starts') :
    List.Forall₂ (Measurement.Alike twin)
      ((starts.mapIdx measurementFrame).map fun f => readMeasurement f.received)
      ((starts'.mapIdx measurementFrame).map fun f => readMeasurement f.received) := by
  refine List.forall₂_iff_get.2 ⟨by simp [h.length_eq], fun place hplace hplace' => ?_⟩
  have hstarts := h.get (by simpa using hplace) (by simpa using hplace')
  simpa using alike_readMeasurement place hstarts

/-- Answers alike are understood as replies alike. -/
lemma alike_ofAnswer [Std.Refl twin] {frames frames' : List Frame}
    (h : FramesAlike twin c frames frames') :
    ResultsAlike (Reply.Alike twin c) (ofAnswer c (frames.map Frame.received))
      (ofAnswer c (frames'.map Frame.received)) := by
  cases h with
  | same frames => exact Std.Refl.refl _
  | @listed starts starts' hkey hcount hstarts =>
    have hread {list : List UInt32} (hlength : list.length < UInt64.size) :
        ofAnswer c ((dataFrame ["LST".toList, "NUM".toList, Natural.digits list.length] ::
          list.mapIdx measurementFrame).map Frame.received) = .ok (.measurements
            ((list.mapIdx measurementFrame).map fun f => readMeasurement f.received)) := by
      have hframes : (list.mapIdx measurementFrame).length < UInt64.size := by simpa using hlength
      have hlist := ofAnswer_list hkey.verb hframes
      rwa [List.length_mapIdx] at hlist
    rw [hread hcount, hread (hstarts.length_eq ▸ hcount)]
    exact .ok (.measurements hkey (alike_map_readMeasurement hstarts))
  | statistics hkey htwin =>
    rw [ofAnswer_statistics hkey.verb, ofAnswer_statistics hkey.verb]
    exact .ok (.statistics hkey (.ofStarts htwin))

end Reply

end TimingBoard
