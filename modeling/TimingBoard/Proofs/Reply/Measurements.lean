import TimingBoard.Proofs.Board.Answer
import TimingBoard.Proofs.Reply.Lists

/-!
# The data of measurements

What the board answers about runs and measurements, and what the client makes of it.  A verdict is
accepted or rejected, and the status is a word.  A list comes as a count and a line for each
measurement, with its place and its starts, and the statistics of a measurement as ten numbers.  The
client cuts the numbers out of a line again one after the other.

Behind this there is the plain answer that the lines stand for, and it is the reply: every line is
read as the numbers it was written with, as far as they fit.
-/

namespace TimingBoard

/-- The statistics of a measurement with a number of starts. -/
def Statistics.ofStarts (starts : UInt32) : Statistics :=
  ⟨([starts.toNat, 20] ++ (List.range 8).map fun channel => starts.toNat / (channel + 1)).map
    UInt64.ofNat, by simp⟩

/-- The list of measurements with the numbers of starts that are given, each with its place. -/
def Measurement.listOf (starts : List UInt32) : List Measurement :=
  starts.mapIdx fun place n => ⟨UInt32.ofNat place, n⟩

namespace Measurement

@[simp] lemma length_listOf (starts : List UInt32) : (listOf starts).length = starts.length :=
  List.length_mapIdx

/-- A measurement of a list is found by its number. -/
lemma getElem?_of_mem_listOf {starts : List UInt32} (h : starts.length ≤ UInt32.size) :
    ∀ m ∈ listOf starts, starts[m.id.toNat]? = some m.starts := by
  intro m hm
  obtain ⟨place, hplace, rfl⟩ := List.mem_mapIdx.1 hm
  have hid : (UInt32.ofNat place).toNat = place :=
    UInt32.toNat_ofNat_of_lt' (Nat.lt_of_lt_of_le hplace h)
  simp [hid, hplace]

end Measurement

namespace Payload

open Natural

/-- Numbers with single spaces between them are a row. -/
lemma startsWithRow_spaced (start : String) (numbers : List Nat) :
    StartsWithRow Text.isDecimalDigit start " "
      (start.toList ++ Board.spaced (numbers.map digits)) (numbers.map digits) := by
  refine ⟨_, [], rfl, (List.append_nil _).symm, fun run hrun => ?_, stopsAt_nil⟩
  obtain ⟨n, -, rfl⟩ := List.mem_map.1 hrun
  exact consists_digits n

/-- Numbers that fit are read from their digits. -/
lemma forall₂_readUInt64?_digits {numbers : List Nat} (h : ∀ n ∈ numbers, n < UInt64.size) :
    List.Forall₂ (fun run n => readUInt64? run = some n) (numbers.map digits)
      (numbers.map UInt64.ofNat) := by
  rw [List.forall₂_map_left_iff, List.forall₂_map_right_iff, List.forall₂_same]
  intro n hn
  simp [readUInt64?, read?_digits (h n hn)]

end Payload

namespace Board

/-- A data frame of ASCII words is read as it was sent. -/
lemma received_dataFrame {words : List Text} (h : ∀ w ∈ words, Text.IsAscii w) :
    (dataFrame words).received = dataFrame words := by
  have hascii : Text.IsAscii (spaced words) := Text.forall_mem_join (by decide) h
  rw [Frame.received, dataFrame, hascii.received_eq]

/-- A data frame has its first word for a key. -/
lemma key_dataFrame {word : Text} (h : ' ' ∉ word) (next : Text) (more : List Text) :
    (dataFrame (word :: next :: more)).key = word := by
  rw [dataFrame, spaced_cons_cons, Frame.key, Text.cutAtSpace_append h]

lemma received_measurementFrame (place : Nat) (starts : UInt32) :
    (measurementFrame place starts).received = measurementFrame place starts := by
  refine received_dataFrame ?_
  simp only [List.forall_mem_cons]
  exact ⟨by decide, Natural.isAscii_digits _, Natural.isAscii_digits _, by simp⟩

/-- The numbers that a statistics frame is written with. -/
lemma statisticsFrame_eq (starts : UInt32) : statisticsFrame starts = dataFrame ("STAT".toList ::
    ([starts.toNat, 20] ++ (List.range 8).map fun channel => starts.toNat / (channel + 1)).map
      Natural.digits) := by
  have htwenty : Natural.digits 20 = "20".toList := by decide
  rw [statisticsFrame, List.map_append, List.map_map, List.map_cons, List.map_cons, htwenty]
  rfl

lemma received_statisticsFrame (starts : UInt32) :
    (statisticsFrame starts).received = statisticsFrame starts := by
  rw [statisticsFrame_eq]
  refine received_dataFrame (List.forall_mem_cons.2 ⟨by decide, fun w hw => ?_⟩)
  obtain ⟨n, -, rfl⟩ := List.mem_map.1 hw
  exact Natural.isAscii_digits n

end Board

namespace Reply

open Board

/-! ## Lines -/

/-- The line of a measurement is read as its place and its starts, if its place fits. -/
lemma readMeasurement_measurementFrame (place : Nat) (starts : UInt32) :
    readMeasurement (measurementFrame place starts) =
      ((Natural.readUInt32? (Natural.digits place)).map fun id => ⟨id, starts⟩).getD
        .placeholder := by
  have hpayload : (measurementFrame place starts).payload =
      "LST ".toList ++ spaced ([place, starts.toNat].map Natural.digits) := by
    rw [measurementFrame, dataFrame, spaced_cons_cons]
    rfl
  have hnumbers : Payload.measurement? (measurementFrame place starts).payload =
      some (Natural.digits place, Natural.digits starts.toNat) := by
    rw [hpayload]
    exact Payload.measurement?_eq_some.2 (Payload.startsWithRow_spaced "LST " _)
  rw [readMeasurement, hnumbers]
  simp only [bind, Option.bind, Natural.readUInt32?_digits, pure]
  cases Natural.readUInt32? (Natural.digits place) <;> rfl

lemma readMeasurement_of_lt {place : Nat} (h : place < UInt32.size) (starts : UInt32) :
    readMeasurement (measurementFrame place starts) = ⟨UInt32.ofNat place, starts⟩ := by
  have hplace : Natural.read? UInt32.size (Natural.digits place) = some place :=
    Natural.read?_digits h
  have hread : Natural.readUInt32? (Natural.digits place) = some (UInt32.ofNat place) := by
    rw [Natural.readUInt32?, hplace, Option.map_some]
  rw [readMeasurement_measurementFrame, hread]
  rfl

/-- The lines of a list are read as the places and the starts that they are about. -/
lemma map_readMeasurement_mapIdx {starts : List UInt32} (h : starts.length ≤ UInt32.size) :
    (starts.mapIdx measurementFrame).map (fun f => readMeasurement f.received) =
      Measurement.listOf starts := by
  refine List.ext_getElem (by simp) fun place hplace _ => ?_
  rw [List.length_map, List.length_mapIdx] at hplace
  have hread := readMeasurement_of_lt (Nat.lt_of_lt_of_le hplace h)
  simp [received_measurementFrame, hread, Measurement.listOf]

/-- The line of statistics is read as the numbers it was written with. -/
lemma readStatistics_statisticsFrame (starts : UInt32) :
    readStatistics (statisticsFrame starts) = .ofStarts starts := by
  -- The ten numbers as they are: no division makes them larger, so that all of them fit.
  let numbers := [starts.toNat, 20] ++ (List.range 8).map fun channel =>
    starts.toNat / (channel + 1)
  have hlength : numbers.length = 10 := by simp [numbers]
  have hfit : ∀ n ∈ numbers, n < UInt64.size := by
    have hstarts : starts.toNat < UInt64.size := Nat.lt_trans starts.toNat_lt (by decide)
    intro n hn
    simp only [numbers, List.mem_append, List.mem_cons, List.not_mem_nil, or_false,
      List.mem_map] at hn
    rcases hn with (rfl | rfl) | ⟨channel, -, rfl⟩
    · exact hstarts
    · decide
    · exact Nat.lt_of_le_of_lt (Nat.div_le_self _ _) hstarts
  have hpayload : (statisticsFrame starts).payload =
      "STAT ".toList ++ spaced (numbers.map Natural.digits) := by
    rw [statisticsFrame_eq]
    exact spaced_cons_cons _ _ _
  refine readStatistics_eq_iff.2 (Or.inl ⟨numbers.map Natural.digits, ?_, ?_⟩)
  · rw [hpayload]
    exact Payload.startsWithRow_spaced "STAT " numbers
  · exact Payload.forall₂_readUInt64?_digits hfit

/-! ## Answers -/

/-- A command that changes a setting, or one about measurements, is acknowledged when it is
accepted. -/
lemma ofAnswer_accepted {c : Command} (h : c.verb = .set ∨ c.verb = .measure) :
    ofAnswer c (accepted.map Frame.received) = .ok .ack :=
  (Judges.accepted h rfl).ofFrames_eq []

section Measure

variable {c : Command} (hc : c.verb = .measure)

include hc

/-- A command about measurements that is rejected fails with the reason of the board. -/
lemma ofAnswer_rejected {reason : String} (h : Text.IsAscii reason.toList) :
    ofAnswer c ((rejected reason).map Frame.received) = .error (.rejected c reason.toList) := by
  have hverb : c.verb ≠ .extend := by
    rw [hc]
    decide
  rw [rejected, List.map_singleton, Frame.received, h.received_eq]
  exact (Judges.rejected hverb rfl).ofFrames_eq []

/-- The status is the word that was sent. -/
lemma ofAnswer_status {word : Text} (h : Text.IsAscii word) :
    ofAnswer c ([dataFrame ["STATUS".toList, word]].map Frame.received) = .ok (.status word) := by
  have hascii : ∀ w ∈ ["STATUS".toList, word], Text.IsAscii w := by
    simp only [List.forall_mem_cons]
    exact ⟨by decide, h, by simp⟩
  have hshows : ShowsStatus (dataFrame ["STATUS".toList, word]).payload word := by
    rw [dataFrame, spaced_cons_cons, spaced_singleton]
    exact Or.inr rfl
  rw [List.map_singleton, received_dataFrame hascii]
  exact (Judges.status ⟨hc, rfl⟩ hshows).ofFrames_eq []

/-- The statistics are the numbers of the measurement. -/
lemma ofAnswer_statistics (starts : UInt32) :
    ofAnswer c ([statisticsFrame starts].map Frame.received) =
      .ok (.statistics (.ofStarts starts)) := by
  have hkey : (statisticsFrame starts).key = "STAT".toList := by
    rw [statisticsFrame_eq]
    exact key_dataFrame (by decide) _ _
  have hcount : ∀ run, ¬ Payload.StartsWithRun Text.isDecimalDigit "STAT NUM "
      (statisticsFrame starts).payload run := by
    intro run hstart
    have hsome := Payload.statisticsCount?_eq_some.2 hstart
    rw [statisticsCount?_statisticsFrame] at hsome
    cases hsome
  have hline := readStatistics_eq_iff.1 (readStatistics_statisticsFrame starts)
  rw [List.map_singleton, received_statisticsFrame]
  exact (Judges.oneLine ⟨hc, rfl⟩ hkey hcount hline).ofFrames_eq []

/-- A list is read line by line. -/
lemma ofAnswer_list {frames : List Frame} (h : frames.length < UInt64.size) :
    ofAnswer c ((dataFrame ["LST".toList, "NUM".toList, Natural.digits frames.length] ::
      frames).map Frame.received) =
        .ok (.measurements (frames.map fun f => readMeasurement f.received)) := by
  have hascii : ∀ w ∈ ["LST".toList, "NUM".toList, Natural.digits frames.length],
      Text.IsAscii w := by
    simp only [List.forall_mem_cons]
    exact ⟨by decide, by decide, Natural.isAscii_digits _, by simp⟩
  have hannounces : Announces c (dataFrame ["LST".toList, "NUM".toList,
      Natural.digits frames.length]) .measurements frames.length := by
    refine ⟨hc, rfl, Natural.digits frames.length, ?_, Natural.read?_digits h⟩
    rw [dataFrame, spaced_cons_cons, spaced_cons_cons, spaced_singleton]
    exact Payload.startsWithRun_append "LST NUM " (Payload.consists_digits _)
  rw [List.map_cons, received_dataFrame hascii, ofAnswer_cons,
    hannounces.ofFrames_eq (List.length_map _), Listing.reply, List.map_map]
  rfl

end Measure

end Reply

end TimingBoard
