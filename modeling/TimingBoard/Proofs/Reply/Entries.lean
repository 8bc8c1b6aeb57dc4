import TimingBoard.Proofs.Reply.Lists

/-!
# The entries of a list

A list of measurements or of statistics has an entry for each frame that follows its announcement,
with zeros for a frame that shows none.  Each frame should be a line of the list: data about
measurements, with a row of numbers and nothing behind it.  The decoder looks at the start of the
payload only, so that `ERR LST 5 3` in the middle of a list is taken for the measurement with the
number 5.  Agents are only taken from frames that carry values.

Here an entry is described by the payload that it is taken from.  Whether all entries belong to
their list is then a question about the frames.
-/

namespace TimingBoard

namespace Natural

variable {t : Text}

/-- A 32-bit number is read as the number below its limit. -/
lemma readUInt32?_eq_some {n : UInt32} :
    readUInt32? t = some n ↔ read? UInt32.size t = some n.toNat := by
  simp only [readUInt32?, Option.map_eq_some_iff]
  constructor
  · rintro ⟨m, hm, rfl⟩
    rw [hm, UInt32.toNat_ofNat_of_lt' (lt_of_read? hm)]
  · intro h
    exact ⟨n.toNat, h, UInt32.ofNat_toNat⟩

/-- A 64-bit number is read as the number below its limit. -/
lemma readUInt64?_eq_some {n : UInt64} :
    readUInt64? t = some n ↔ read? UInt64.size t = some n.toNat := by
  simp only [readUInt64?, Option.map_eq_some_iff]
  constructor
  · rintro ⟨m, hm, rfl⟩
    rw [hm, UInt64.toNat_ofNat_of_lt' (lt_of_read? hm)]
  · intro h
    exact ⟨n.toNat, h, UInt64.ofNat_toNat⟩

end Natural

namespace Reply

open Payload

/-! ## Lines of numbers -/

/-- The lists of which each frame is an entry. -/
inductive EntryList where
  | measurements
  | statistics

namespace EntryList

/-- How the list is announced. -/
def listing : EntryList → Listing
  | measurements => .measurements
  | statistics => .statistics

/-- What stands in front of the numbers of a line. -/
def start : EntryList → String
  | measurements => "LST "
  | statistics => "STAT "

/-- How many numbers stand in a line. -/
def size : EntryList → Nat
  | measurements => 2
  | statistics => 10

/-- The limit of the numbers of a line. -/
def limit : EntryList → Nat
  | measurements => UInt32.size
  | statistics => UInt64.size

variable (l : EntryList)

/-- The whole payload is a line of the list. -/
def IsLine (payload : Text) : Prop :=
  ∃ runs, runs.length = l.size ∧ (∀ run ∈ runs, Consists Text.isDecimalDigit run) ∧
    payload = l.start.toList ++ Text.join " ".toList runs

/-- The payload starts with a line of the list, and its numbers fit. -/
def ShowsNumbers (payload : Text) (numbers : List Nat) : Prop :=
  numbers.length = l.size ∧ ∃ runs, StartsWithRow Text.isDecimalDigit l.start " " payload runs ∧
    List.Forall₂ (fun run n => Natural.read? l.limit run = some n) runs numbers

/-- The payload starts with a line of the list that is not all zeros. -/
def ShowsEntry (payload : Text) : Prop :=
  ∃ numbers, l.ShowsNumbers payload numbers ∧ ∃ n ∈ numbers, n ≠ 0

end EntryList

end Reply

namespace Measurement

/-- The numbers of the line of a measurement. -/
def numbers (m : Measurement) : List Nat :=
  [m.id.toNat, m.starts.toNat]

lemma eq_placeholder_iff {m : Measurement} : m = .placeholder ↔ ∀ n ∈ m.numbers, n = 0 := by
  obtain ⟨id, starts⟩ := m
  simp [numbers, placeholder, ← UInt32.toNat_inj]

end Measurement

namespace Statistics

/-- The numbers of a line of statistics. -/
def numbers (line : Statistics) : List Nat :=
  line.fields.map UInt64.toNat

lemma eq_zero_iff {line : Statistics} : line = .zero ↔ ∀ n ∈ line.numbers, n = 0 := by
  obtain ⟨fields, hsize⟩ := line
  simp only [Statistics.mk.injEq, zero, List.eq_replicate_iff, hsize, true_and, numbers,
    List.forall_mem_map, ← UInt64.toNat_inj]
  rfl

end Statistics

namespace Reply

open Payload

/-! ## What an entry is taken from -/

variable {payload : Text} {f : Frame}

lemma showsMeasurement_iff {m : Measurement} :
    ShowsMeasurement payload m ↔ EntryList.measurements.ShowsNumbers payload m.numbers := by
  simp only [ShowsMeasurement, EntryList.ShowsNumbers, Measurement.numbers,
    Natural.readUInt32?_eq_some]
  constructor
  · rintro ⟨idRun, startsRun, hstart, hid, hstarts⟩
    exact ⟨rfl, [idRun, startsRun], hstart, .cons hid (.cons hstarts .nil)⟩
  · rintro ⟨-, runs, hstart, hnumbers⟩
    cases hnumbers with
    | cons hid hmore =>
      cases hmore with
      | cons hstarts hnil =>
        cases hnil
        exact ⟨_, _, hstart, hid, hstarts⟩

lemma showsStatistics_iff {line : Statistics} :
    ShowsStatistics payload line ↔ EntryList.statistics.ShowsNumbers payload line.numbers := by
  simp only [ShowsStatistics, EntryList.ShowsNumbers, Statistics.numbers,
    Natural.readUInt64?_eq_some, List.forall₂_map_right_iff, List.length_map]
  exact ⟨fun h => ⟨line.size_eq, h⟩, And.right⟩

/-- Numbers that are read are below their limit. -/
lemma lt_of_forall₂_read? {limit : Nat} {runs : List Text} {numbers : List Nat}
    (h : List.Forall₂ (fun run n => Natural.read? limit run = some n) runs numbers) :
    ∀ n ∈ numbers, n < limit := by
  induction h with
  | nil => simp
  | cons hread _ ih => exact List.forall_mem_cons.2 ⟨Natural.lt_of_read? hread, ih⟩

namespace EntryList.ShowsNumbers

variable {numbers : List Nat}

/-- The numbers that a payload of the list shows are those of a measurement. -/
lemma exists_measurement (h : measurements.ShowsNumbers payload numbers) :
    ∃ m : Measurement, m.numbers = numbers := by
  obtain ⟨hlength, runs, -, hnumbers⟩ := h
  have hlt := lt_of_forall₂_read? hnumbers
  obtain ⟨id, starts, rfl⟩ := List.length_eq_two.1 hlength
  refine ⟨⟨UInt32.ofNat id, UInt32.ofNat starts⟩, ?_⟩
  rw [Measurement.numbers, UInt32.toNat_ofNat_of_lt' (hlt id (by simp)),
    UInt32.toNat_ofNat_of_lt' (hlt starts (by simp))]

/-- The numbers that a payload of the list shows are those of a line of statistics. -/
lemma exists_statistics (h : statistics.ShowsNumbers payload numbers) :
    ∃ line : Statistics, line.numbers = numbers := by
  obtain ⟨hlength, runs, -, hnumbers⟩ := h
  have hlt := lt_of_forall₂_read? hnumbers
  refine ⟨⟨numbers.map UInt64.ofNat, by rw [List.length_map, hlength]; rfl⟩, ?_⟩
  rw [Statistics.numbers, List.map_map]
  exact (List.map_congr_left fun n hn => UInt64.toNat_ofNat_of_lt' (hlt n hn)).trans numbers.map_id

end EntryList.ShowsNumbers

/-- A value that stands for a payload is not the placeholder where another one is shown. -/
lemma ne_placeholder_iff {α : Type} {Shows : Text → α → Prop} {placeholder a : α}
    (h : ∀ b, a = b ↔ StandsFor Shows placeholder payload b) :
    a ≠ placeholder ↔ ∃ b, Shows payload b ∧ b ≠ placeholder := by
  constructor
  · intro hne
    rcases (h a).1 rfl with hshows | ⟨-, hplaceholder⟩
    · exact ⟨a, hshows, hne⟩
    · exact absurd hplaceholder hne
  · rintro ⟨b, hshows, hne⟩
    rwa [(h b).2 (Or.inl hshows)]

/-- A measurement other than the placeholder is read from the payloads that show an entry. -/
lemma readMeasurement_ne_placeholder_iff :
    readMeasurement f ≠ .placeholder ↔ EntryList.measurements.ShowsEntry f.payload := by
  simp only [ne_placeholder_iff fun _ => readMeasurement_eq_iff, showsMeasurement_iff, ne_eq,
    Measurement.eq_placeholder_iff, not_forall, exists_prop]
  constructor
  · rintro ⟨m, hshows, hne⟩
    exact ⟨m.numbers, hshows, hne⟩
  · rintro ⟨numbers, hshows, hne⟩
    obtain ⟨m, rfl⟩ := hshows.exists_measurement
    exact ⟨m, hshows, hne⟩

/-- A line of statistics other than zeros is read from the payloads that show an entry. -/
lemma readStatistics_ne_zero_iff :
    readStatistics f ≠ .zero ↔ EntryList.statistics.ShowsEntry f.payload := by
  simp only [ne_placeholder_iff fun _ => readStatistics_eq_iff, showsStatistics_iff, ne_eq,
    Statistics.eq_zero_iff, not_forall, exists_prop]
  constructor
  · rintro ⟨line, hshows, hne⟩
    exact ⟨line.numbers, hshows, hne⟩
  · rintro ⟨numbers, hshows, hne⟩
    obtain ⟨line, rfl⟩ := hshows.exists_statistics
    exact ⟨line, hshows, hne⟩

/-! ## Entries of replies -/

/-- The entry at a place of the reply is not the placeholder. -/
def HasEntryAt : Reply → Nat → Prop
  | .measurements list, i => ∃ m, list[i]? = some m ∧ m ≠ .placeholder
  | .statisticsList lines, i => ∃ line, lines[i]? = some line ∧ line ≠ .zero
  | _, _ => False

variable {l : EntryList} {frames : List Frame}

/-- The entries are those that the payloads show, whatever the tags of the frames. -/
lemma hasEntryAt_reply_iff {i : Nat} : (l.listing.reply frames).HasEntryAt i ↔
    ∃ f, frames[i]? = some f ∧ l.ShowsEntry f.payload := by
  cases l with
  | measurements =>
    simp [EntryList.listing, Listing.reply, HasEntryAt, ← readMeasurement_ne_placeholder_iff]
  | statistics =>
    simp [EntryList.listing, Listing.reply, HasEntryAt, ← readStatistics_ne_zero_iff]

/-- A function of the payloads is the same on frames with the same payloads. -/
lemma map_eq_of_map_payload_eq {α : Type} {others : List Frame} (read : Text → α)
    (h : others.map Frame.payload = frames.map Frame.payload) :
    others.map (fun f => read f.payload) = frames.map fun f => read f.payload := by
  have hread := congrArg (List.map read) h
  rwa [List.map_map, List.map_map] at hread

/-- The reply of such a list is known from the payloads. -/
lemma reply_eq_of_map_payload_eq {others : List Frame}
    (h : others.map Frame.payload = frames.map Frame.payload) :
    l.listing.reply others = l.listing.reply frames := by
  cases l with
  | measurements =>
    exact congrArg Reply.measurements
      (map_eq_of_map_payload_eq (fun payload => readMeasurement ⟨.measurement, payload⟩) h)
  | statistics =>
    exact congrArg Reply.statisticsList
      (map_eq_of_map_payload_eq (fun payload => readStatistics ⟨.measurement, payload⟩) h)

/-! ## Where all entries belong to their list -/

/-- Every entry of a reply is taken from a frame of the list: one that carries data about
measurements, and a line of the list for a payload. -/
def EntriesBelong (l : EntryList) (frames : List Frame) (reply : Reply) : Prop :=
  ∀ i f, frames[i]? = some f → reply.HasEntryAt i → f.tag = .measurement ∧ l.IsLine f.payload

/-- **Where the entries of a list belong to it.**  A list of measurements or of statistics has an
entry other than the placeholder exactly where the payload of a frame starts with a line of the list
that is not all zeros.  The tags of the frames do not matter for the reply.  Hence all entries
belong to the list exactly if every frame that shows one carries data about measurements and goes on
with nothing behind the line. -/
theorem entriesBelong_iff {σ : Type} {next : Call σ Frame} {c : Command} {first : Frame} {s t : σ}
    (h : Announces c first l.listing frames.length) (hyields : Yields next s frames t) :
    ∃ reply, (decode next c first).run s = (.ok reply, t) ∧
      (∀ i, reply.HasEntryAt i ↔ ∃ f, frames[i]? = some f ∧ l.ShowsEntry f.payload) ∧
      (∀ (others : List Frame) (u v : σ), others.map Frame.payload = frames.map Frame.payload →
        Yields next u others v → (decode next c first).run u = (.ok reply, v)) ∧
      (EntriesBelong l frames reply ↔
        ∀ f ∈ frames, l.ShowsEntry f.payload → f.tag = .measurement ∧ l.IsLine f.payload) := by
  refine ⟨l.listing.reply frames, h.decode_run rfl hyields, fun i => hasEntryAt_reply_iff,
    fun others u v hothers hyields' => ?_, ?_⟩
  · have hlength : others.length = frames.length := by
      simpa using congrArg List.length hothers
    rw [h.decode_run hlength hyields', reply_eq_of_map_payload_eq hothers]
  · constructor
    · intro hbelong f hf hshows
      obtain ⟨i, hi⟩ := List.mem_iff_getElem?.1 hf
      exact hbelong i f hi (hasEntryAt_reply_iff.2 ⟨f, hi, hshows⟩)
    · intro hframes i f hi hentry
      obtain ⟨f', hi', hshows⟩ := hasEntryAt_reply_iff.1 hentry
      obtain rfl : f = f' := Option.some.inj (hi.symm.trans hi')
      exact hframes f (List.mem_of_getElem? hi) hshows

/-- A frame that carries a value is taken for an entry, and with more behind its line. -/
theorem entriesBelong_iff_strayFrame :
    let list : Command := ⟨.measure, "LST".toList, by decide, by decide⟩
    let first : Frame := ⟨.measurement, "LST NUM 2".toList⟩
    let frames : List Frame := [⟨.measurement, "LST 4 7".toList⟩, ⟨.value, "LST 5 3 x".toList⟩]
    Announces list first EntryList.measurements.listing frames.length ∧
      Yields nextOf frames frames [] ∧
      ∃ reply, (decode nextOf list first).run frames = (.ok reply, []) ∧ reply.HasEntryAt 1 ∧
        ¬ EntriesBelong .measurements frames reply := by
  intro list first frames
  have hannounces : Announces list first EntryList.measurements.listing frames.length := by
    have hdigits : Consists Text.isDecimalDigit "2".toList := ⟨by decide, by decide⟩
    exact ⟨rfl, rfl, "2".toList, startsWithRun_append "LST NUM " hdigits, by decide⟩
  have hyields : Yields nextOf frames frames [] := yields_nextOf frames []
  have hshows : EntryList.measurements.ShowsEntry "LST 5 3 x".toList := by
    refine ⟨[5, 3], ⟨rfl, ["5".toList, "3".toList], ⟨"5 3 x".toList, " x".toList, rfl, rfl, ?_, ?_⟩,
      .cons (by decide) (.cons (by decide) .nil)⟩, 5, by decide, by decide⟩
    · simp only [List.forall_mem_cons]
      exact ⟨⟨by decide, by decide⟩, ⟨by decide, by decide⟩, by simp⟩
    · exact stopsAt_cons.2 (by decide)
  obtain ⟨reply, hrun, hentry, -, hbelong⟩ := entriesBelong_iff hannounces hyields
  refine ⟨hannounces, hyields, reply, hrun, (hentry 1).2 ⟨_, rfl, hshows⟩, fun h => ?_⟩
  have htag := (hbelong.1 h ⟨.value, "LST 5 3 x".toList⟩ (by simp [frames]) hshows).1
  cases htag

/-- A line that reports an error in the middle of a list is taken for a measurement. -/
theorem not_entriesBelong_rejectedLine :
    let list : Command := ⟨.measure, "LST".toList, by decide, by decide⟩
    let first : Frame := ⟨.measurement, "LST NUM 1".toList⟩
    let frames : List Frame := [⟨.rejected, "LST 5 3".toList⟩]
    Announces list first EntryList.measurements.listing frames.length ∧
      (decode nextOf list first).run frames = (.ok (.measurements [⟨5, 3⟩]), []) ∧
      ¬ EntriesBelong .measurements frames (.measurements [⟨5, 3⟩]) := by
  intro list first frames
  have hdigits : Consists Text.isDecimalDigit "1".toList := ⟨by decide, by decide⟩
  refine ⟨⟨rfl, rfl, "1".toList, startsWithRun_append "LST NUM " hdigits, by decide⟩,
    by decide +kernel, fun hbelong => ?_⟩
  have htag := (hbelong 0 _ rfl ⟨⟨5, 3⟩, rfl, by decide⟩).1
  cases htag

end Reply

end TimingBoard
