import Mathlib.Data.List.Forall2
import TimingBoard.Proofs.Reply.Grammar
import TimingBoard.Proofs.Request.Line

/-!
# What payloads show

A payload shows a value if it starts with a sentence whose numbers fit: a magnitude that is a finite
number, 32-bit numbers in a setting, an agent or a measurement, and 64-bit numbers in statistics.  A
sentence in digits of another script than ASCII shows nothing, since these have no value.

Each reader finds exactly the values that are shown.
-/

namespace TimingBoard

/-! ## Times -/

namespace Text

/-- No digit of any script is white space. -/
lemma isSpace_of_isDecimalDigit {c : Char} (h : isDecimalDigit c = true) : isSpace c = false := by
  -- The code points of digits lie between those of white space.
  have hranges : ∀ r ∈ decimalDigitRanges,
      0xA0 < r.1 ∧ r.2 < 0x1680 ∨ 0x1680 < r.1 ∧ r.2 < 0x2000 ∨ 0x3000 < r.1 := by decide
  have hcode : 0x30 ≤ c.toNat ∧ c.toNat ≤ 0x39 ∨ 0xA0 < c.toNat ∧ c.toNat < 0x1680 ∨
      0x1680 < c.toNat ∧ c.toNat < 0x2000 ∨ 0x3000 < c.toNat := by
    unfold isDecimalDigit at h
    split at h
    · exact Or.inl (toNat_of_isDigit h)
    · obtain ⟨r, hr, hc⟩ := List.any_eq_true.1 h
      have hbounds := hranges r hr
      simp only [Bool.and_eq_true, decide_eq_true_eq] at hc
      omega
  simp only [isSpace, Bool.or_eq_false_iff, Bool.and_eq_false_iff, decide_eq_false_iff_not,
    beq_eq_false_iff_ne]
  omega

end Text

namespace TimeText

open Payload

/-- A magnitude with the letter of a unit is read if the number is finite. -/
lemma read_append_letter {magnitude : Text} (h : IsMagnitude magnitude) (unit : TimeUnit)
    {value : TimeText} : read (magnitude ++ [unit.letter]) = .ok value ↔
      value = ⟨magnitude, some unit⟩ ∧ ∃ x, Binary64.read? magnitude = some x ∧
        x.isFinite = true := by
  obtain ⟨hstop, hpoint⟩ := stopsAt_letter unit []
  have hcut := cutMagnitude_of_isMagnitude h hstop hpoint
  have hspace : ∀ c ∈ magnitude ++ [unit.letter], Text.isSpace c = false := by
    intro c hc
    rcases List.mem_append.1 hc with hc | hc
    · have hchar := isDecimalDigit_of_mem_cutMagnitude (t := magnitude ++ [unit.letter]) (c := c)
      rw [hcut] at hchar
      rcases hchar hc with hdigit | rfl
      · exact Text.isSpace_of_isDecimalDigit hdigit
      · decide
    · obtain rfl := List.mem_singleton.1 hc
      cases unit <;> decide
  have htrim := Text.trim_of_forall hspace
  constructor
  · intro hread
    obtain ⟨rest, x, hparts, -, hunit, hx, hfinite⟩ := read_eq_ok hread
    rw [htrim, hcut] at hparts
    obtain ⟨rfl, rfl⟩ := Prod.mk.inj hparts
    have hletter : some (some unit) = some value.unit := by simpa [readUnit?] using hunit
    refine ⟨?_, x, hx, hfinite⟩
    rw [Option.some.inj hletter]
  · rintro ⟨rfl, x, hx, hfinite⟩
    have hne : magnitude ≠ [] := h.ne_nil
    unfold read
    rw [htrim, hcut]
    simp [readUnit?, hx, hfinite]

end TimeText

namespace Reply

open Payload

variable {payload : Text}

/-! ## Settings -/

/-- A payload shows the value of a setting. -/
inductive ShowsSetting (payload : Text) : Reply → Prop
  | timing {key : TimingKey} {magnitude : Text} {unit : TimeUnit} {x : Binary64} :
    StartsWithTime payload key magnitude unit → Binary64.read? magnitude = some x →
      x.isFinite = true → ShowsSetting payload (.timing key ⟨magnitude, some unit⟩)
  /-- The word `NONE` stands for no prefix. -/
  | filePrefix {token : Text} : StartsWithRun Token.isCharacter "PREFIX " payload token →
      ShowsSetting payload (.filePrefix (if token = "NONE".toList then [] else token))
  | autosave {run : Text} {count : UInt32} :
    StartsWithRun Text.isDecimalDigit "AUTOSAVE " payload run →
      Natural.readUInt32? run = some count → ShowsSetting payload (.autosave count)
  | monitor {saveRun countRun filename : Text} {save count : UInt32} :
    StartsWithMonitor payload saveRun countRun filename → Natural.readUInt32? saveRun = some save →
      Natural.readUInt32? countRun = some count →
        ShowsSetting payload (.monitor ⟨save, count, filename⟩)

lemma timing?_eq_some {reply : Reply} : timing? payload = some reply ↔
    ∃ key value, reply = .timing key value ∧ ShowsSetting payload reply := by
  simp only [timing?, bind, Option.bind_eq_some_iff]
  constructor
  · rintro ⟨⟨key, text⟩, hcut, hread⟩
    obtain ⟨magnitude, unit, hstart, rfl⟩ := Payload.timing?_eq_some.1 hcut
    split at hread
    · next value hvalue =>
      obtain rfl := Option.some.inj hread
      obtain ⟨rfl, x, hx, hfinite⟩ := (TimeText.read_append_letter hstart.1 unit).1 hvalue
      exact ⟨key, _, rfl, .timing hstart hx hfinite⟩
    · cases hread
  · rintro ⟨key, value, rfl, hshows⟩
    cases hshows with
    | @timing _ magnitude unit x hstart hx hfinite =>
      have hread : TimeText.read (magnitude ++ [unit.letter]) = .ok ⟨magnitude, some unit⟩ :=
        (TimeText.read_append_letter hstart.1 unit).2 ⟨rfl, x, hx, hfinite⟩
      exact ⟨_, Payload.timing?_eq_some.2 ⟨magnitude, unit, hstart, rfl⟩, by rw [hread]⟩

lemma filePrefix?_eq_some {reply : Reply} : filePrefix? payload = some reply ↔
    ∃ value, reply = .filePrefix value ∧ ShowsSetting payload reply := by
  simp only [filePrefix?, bind, Option.bind_eq_some_iff, pure, Option.some.injEq]
  constructor
  · rintro ⟨token, hcut, rfl⟩
    exact ⟨_, rfl, .filePrefix (Payload.filePrefix?_eq_some.1 hcut)⟩
  · rintro ⟨value, rfl, hshows⟩
    cases hshows with
    | filePrefix hstart => exact ⟨_, Payload.filePrefix?_eq_some.2 hstart, rfl⟩

lemma autosave?_eq_some {reply : Reply} : autosave? payload = some reply ↔
    ∃ count, reply = .autosave count ∧ ShowsSetting payload reply := by
  simp only [autosave?, bind, Option.bind_eq_some_iff, pure, Option.some.injEq]
  constructor
  · rintro ⟨run, hcut, count, hcount, rfl⟩
    exact ⟨count, rfl, .autosave (Payload.autosave?_eq_some.1 hcut) hcount⟩
  · rintro ⟨count, rfl, hshows⟩
    cases hshows with
    | autosave hstart hcount => exact ⟨_, Payload.autosave?_eq_some.2 hstart, count, hcount, rfl⟩

lemma monitor?_eq_some {reply : Reply} : monitor? payload = some reply ↔
    ∃ value, reply = .monitor value ∧ ShowsSetting payload reply := by
  simp only [monitor?, bind, Option.bind_eq_some_iff, pure, Option.some.injEq]
  constructor
  · rintro ⟨⟨saveRun, countRun, filename⟩, hcut, save, hsave, count, hcount, rfl⟩
    exact ⟨_, rfl, .monitor (Payload.monitor?_eq_some.1 hcut) hsave hcount⟩
  · rintro ⟨value, rfl, hshows⟩
    cases hshows with
    | monitor hstart hsave hcount =>
      exact ⟨_, Payload.monitor?_eq_some.2 hstart, _, hsave, _, hcount, rfl⟩

/-! ## Lines of lists -/

/-- A frame shows an agent: it carries a value, and the number of the agent fits. -/
def ShowsAgent (f : Frame) (agent : Agent) : Prop :=
  f.tag = .value ∧ ∃ run, StartsWithAgent f.payload run agent.mac ∧
    Natural.readUInt32? run = some agent.id

/-- A payload shows a measurement: both of its numbers fit. -/
def ShowsMeasurement (payload : Text) (m : Measurement) : Prop :=
  ∃ idRun startsRun, StartsWithRow Text.isDecimalDigit "LST " " " payload [idRun, startsRun] ∧
    Natural.readUInt32? idRun = some m.id ∧ Natural.readUInt32? startsRun = some m.starts

/-- A payload shows a line of statistics: all ten numbers fit. -/
def ShowsStatistics (payload : Text) (line : Statistics) : Prop :=
  ∃ runs, StartsWithRow Text.isDecimalDigit "STAT " " " payload runs ∧
    List.Forall₂ (fun run n => Natural.readUInt64? run = some n) runs line.fields

/-- A payload stands for what it shows, and for the placeholder if it shows nothing. -/
def StandsFor {α : Type} (Shows : Text → α → Prop) (placeholder : α) (payload : Text) (a : α) :
    Prop :=
  Shows payload a ∨ (∀ b, ¬ Shows payload b) ∧ a = placeholder

lemma readAgent?_eq_some {f : Frame} {agent : Agent} :
    readAgent? f = some agent ↔ ShowsAgent f agent := by
  unfold readAgent? ShowsAgent
  split
  · next htag =>
    simp only [bind, Option.bind_eq_some_iff, pure, Option.some.injEq, htag, true_and]
    constructor
    · rintro ⟨⟨run, mac⟩, hcut, id, hid, rfl⟩
      exact ⟨run, agent?_eq_some.1 hcut, hid⟩
    · rintro ⟨run, hstart, hid⟩
      exact ⟨(run, agent.mac), agent?_eq_some.2 hstart, agent.id, hid, rfl⟩
  · next htag => simp [htag]

/-- The measurement of a frame, if both of its numbers fit. -/
def readMeasurement? (f : Frame) : Option Measurement := do
  let (id, starts) ← measurement? f.payload
  return ⟨← Natural.readUInt32? id, ← Natural.readUInt32? starts⟩

lemma readMeasurement?_eq_some {f : Frame} {m : Measurement} :
    readMeasurement? f = some m ↔ ShowsMeasurement f.payload m := by
  simp only [readMeasurement?, bind, Option.bind_eq_some_iff, pure, Option.some.injEq]
  constructor
  · rintro ⟨⟨idRun, startsRun⟩, hcut, id, hid, starts, hstarts, rfl⟩
    exact ⟨idRun, startsRun, measurement?_eq_some.1 hcut, hid, hstarts⟩
  · rintro ⟨idRun, startsRun, hstart, hid, hstarts⟩
    exact ⟨_, measurement?_eq_some.2 hstart, _, hid, _, hstarts, rfl⟩

/-- Where a reader finds exactly what is shown, the rest stands for the placeholder. -/
lemma getD_eq_iff_standsFor {α : Type} {Shows : Text → α → Prop} {read : Option α}
    {placeholder a : α} (h : ∀ b, read = some b ↔ Shows payload b) :
    read.getD placeholder = a ↔ StandsFor Shows placeholder payload a := by
  unfold StandsFor
  simp only [← h]
  cases read with
  | none => simp [eq_comm]
  | some b => simp

/-- A measurement is read as shown, or the placeholder is taken. -/
lemma readMeasurement_eq_iff {f : Frame} {m : Measurement} :
    readMeasurement f = m ↔ StandsFor ShowsMeasurement .placeholder f.payload m :=
  getD_eq_iff_standsFor fun _ => readMeasurement?_eq_some

/-- All numbers of a row are read if each of them is. -/
lemma mapM_readUInt64?_eq_some {runs : List Text} {fields : List UInt64} :
    runs.mapM Natural.readUInt64? = some fields ↔
      List.Forall₂ (fun run n => Natural.readUInt64? run = some n) runs fields := by
  induction runs generalizing fields with
  | nil => simp [eq_comm]
  | cons run runs ih =>
    simp only [List.mapM_cons, bind, Option.bind_eq_some_iff, pure, Option.some.injEq, ih,
      List.forall₂_cons_left_iff]
    constructor
    · rintro ⟨n, hn, more, hmore, rfl⟩
      exact ⟨n, more, hn, hmore, rfl⟩
    · rintro ⟨n, more, hn, hmore, rfl⟩
      exact ⟨n, hn, more, hmore, rfl⟩

/-- The line of statistics of a frame, if all ten numbers fit. -/
def readStatistics? (f : Frame) : Option Statistics := do
  let fields ← (statistics? f.payload).bind (·.mapM Natural.readUInt64?)
  if h : fields.length = 10 then some ⟨fields, h⟩ else none

lemma readStatistics?_eq_some {f : Frame} {line : Statistics} :
    readStatistics? f = some line ↔ ShowsStatistics f.payload line := by
  simp only [readStatistics?, bind, Option.bind_eq_some_iff, mapM_readUInt64?_eq_some]
  constructor
  · rintro ⟨fields, ⟨runs, hcut, hfields⟩, hline⟩
    obtain ⟨hlength, hstart⟩ := statistics?_eq_some.1 hcut
    rw [dif_pos (hfields.length_eq ▸ hlength)] at hline
    obtain rfl := Option.some.inj hline
    exact ⟨runs, hstart, hfields⟩
  · rintro ⟨runs, hstart, hfields⟩
    have hlength : runs.length = 10 := hfields.length_eq ▸ line.size_eq
    exact ⟨line.fields, ⟨runs, statistics?_eq_some.2 ⟨hlength, hstart⟩, hfields⟩,
      dif_pos line.size_eq⟩

/-- A line of statistics is read as shown, or zeros are taken. -/
lemma readStatistics_eq_iff {f : Frame} {line : Statistics} :
    readStatistics f = line ↔ StandsFor ShowsStatistics .zero f.payload line := by
  have hread : readStatistics f = (readStatistics? f).getD .zero := by
    unfold readStatistics readStatistics?
    cases (statistics? f.payload).bind (·.mapM Natural.readUInt64?) with
    | none => rfl
    | some fields =>
      simp only [bind, Option.bind]
      split <;> rfl
  rw [hread]
  exact getD_eq_iff_standsFor fun _ => readStatistics?_eq_some

/-! ## First words -/

/-- The first word of a payload is the whole of it or ends at a space. -/
lemma key_eq_iff {f : Frame} {word : Text} (h : ' ' ∉ word) :
    f.key = word ↔ f.payload = word ∨ ∃ rest, f.payload = word ++ ' ' :: rest := by
  constructor
  · intro hkey
    have happend := List.takeWhile_append_dropWhile (p := (· != ' ')) (l := f.payload)
    have hhead := List.head?_dropWhile_not (· != ' ') f.payload
    rw [show f.payload.takeWhile (· != ' ') = word from hkey] at happend
    cases hrest : f.payload.dropWhile (· != ' ') with
    | nil =>
      rw [hrest, List.append_nil] at happend
      exact Or.inl happend.symm
    | cons c rest =>
      rw [hrest] at happend hhead
      obtain rfl : c = ' ' := by simpa using hhead
      exact Or.inr ⟨rest, happend.symm⟩
  · rintro (hpayload | ⟨rest, hpayload⟩)
    · rw [Frame.key, hpayload, Text.cutAtSpace_of_notMem h]
    · rw [Frame.key, hpayload, Text.cutAtSpace_append h]

/-- The text of a status is what follows the first word and a space, if anything does. -/
def ShowsStatus (payload text : Text) : Prop :=
  payload = "STATUS".toList ∧ text = [] ∨ payload = "STATUS".toList ++ ' ' :: text

lemma ShowsStatus.drop_eq {text : Text} (h : ShowsStatus payload text) : payload.drop 7 = text := by
  rcases h with ⟨rfl, rfl⟩ | rfl
  · rfl
  · rfl

lemma key_eq_status_iff {f : Frame} : f.key = "STATUS".toList ↔
    ∃ text, ShowsStatus f.payload text := by
  rw [key_eq_iff (by decide)]
  constructor
  · rintro (hpayload | ⟨rest, hpayload⟩)
    · exact ⟨[], Or.inl ⟨hpayload, rfl⟩⟩
    · exact ⟨rest, Or.inr hpayload⟩
  · rintro ⟨text, ⟨hpayload, -⟩ | hpayload⟩
    · exact Or.inl hpayload
    · exact Or.inr ⟨text, hpayload⟩

/-- The word that the value of a setting stands behind. -/
def settingWord : Reply → Text
  | .timing key _ => key.word
  | .filePrefix _ => "PREFIX".toList
  | .autosave _ => "AUTOSAVE".toList
  | .monitor _ => "MONITOR".toList
  | _ => []

lemma space_notMem_settingWord (reply : Reply) : ' ' ∉ settingWord reply := by
  unfold settingWord
  split
  · next key _ => cases key <;> decide
  all_goals decide

/-- A value stands behind the word of its setting and a space. -/
lemma ShowsSetting.exists_eq_append {reply : Reply} (h : ShowsSetting payload reply) :
    ∃ rest, payload = settingWord reply ++ ' ' :: rest := by
  cases h with
  | timing hstart _ _ =>
    obtain ⟨-, rest, hpayload⟩ := hstart
    exact ⟨_, hpayload⟩
  | filePrefix hstart =>
    obtain ⟨rest, hpayload, -⟩ := hstart
    exact ⟨_, hpayload⟩
  | autosave hstart _ =>
    obtain ⟨rest, hpayload, -⟩ := hstart
    exact ⟨_, hpayload⟩
  | monitor hstart _ _ =>
    obtain ⟨_, _, hpayload, -⟩ := hstart
    exact ⟨_, hpayload⟩

/-- A payload that starts with a value has the word of its setting for a first word. -/
lemma ShowsSetting.key_eq_of_append {f : Frame} {head rest : Text} {reply : Reply}
    (h : ShowsSetting head reply) (hpayload : f.payload = head ++ rest) :
    f.key = settingWord reply := by
  obtain ⟨more, rfl⟩ := h.exists_eq_append
  exact (key_eq_iff (space_notMem_settingWord reply)).2 (Or.inr ⟨more ++ rest, by simp [hpayload]⟩)

lemma ShowsSetting.key_eq {f : Frame} {reply : Reply} (h : ShowsSetting f.payload reply) :
    f.key = settingWord reply :=
  h.key_eq_of_append (List.append_nil _).symm

end Reply

end TimingBoard
