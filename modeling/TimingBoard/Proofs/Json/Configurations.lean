import TimingBoard.Proofs.Json.Grammar
import TimingBoard.Proofs.Json.Records
import TimingBoard.Proofs.Time.Legal

/-!
# Configurations as JSON

A record is read back from its members, each under its own name.  So of a configuration everything
is read back but the times: these are written as their texts, and they are read back exactly if they
are legal.  One time that is not makes the whole configuration unreadable.
-/

namespace TimingBoard

namespace Json

/-! ## Numbers -/

lemma uint32?_ofNat (n : UInt32) : (ofNat n.toNat).uint32? = some n := by
  have hdigits : (Natural.digits n.toNat).all Char.isDigit = true :=
    List.all_eq_true.2 fun _ => Natural.isDigit_of_mem_digits
  simp [uint32?, unsigned?, ofNat, hdigits, Natural.value_digits, n.toNat_lt]

end Json

/-! ## Configurations -/

/-- A time that can be had is read back only as the time, and then it is legal. -/
lemma TimeText.IsBuilt.ofJson?_toJson_eq_some_iff {t r : TimeText} (h : t.IsBuilt) :
    ofJson? t.toJson = some r ↔ r = t ∧ t.IsLegal := by
  rw [← h.read_text_eq_ok_iff]
  simp only [ofJson?, toJson, Json.text?, Json.ofText, bind, Option.bind_some]
  cases TimeText.read t.text <;> simp

lemma Monitor.ofJson?_toJson (m : Monitor) : ofJson? m.toJson = some m := by
  have hrecord : m.toJson.record? ["save", "count", "filename"] =
      some ⟨[some (.ofNat m.save.toNat), some (.ofNat m.count.toNat), some (.ofText m.filename)],
        false⟩ :=
    Json.record?_ofMembers _ (show ["save", "count", "filename"].Nodup by decide)
  simp [ofJson?, hrecord, Json.uint32?_ofNat, Json.text?, Json.ofText]

namespace Configuration

variable {c r : Configuration}

lemma monitorOfJson?_toJson (m : Option Monitor) :
    monitorOfJson? false (some (match m with
      | some m => m.toJson
      | none => .null)) = some m := by
  cases m with
  | none => rfl
  | some m =>
    have hread : monitorOfJson? false (some m.toJson) = (Monitor.ofJson? m.toJson).map some := rfl
    rw [hread, Monitor.ofJson?_toJson]
    rfl

/-- Everything but the times is read back as it is. -/
lemma ofJson?_toJson (c : Configuration) : ofJson? c.toJson = (do
    let totalTime ← TimeText.ofJson? c.totalTime.toJson
    let windowTime ← TimeText.ofJson? c.windowTime.toJson
    let deadtime ← TimeText.ofJson? c.deadtime.toJson
    return { c with totalTime := totalTime, windowTime := windowTime, deadtime := deadtime }) := by
  let monitor : Json := match c.monitor with
    | some m => m.toJson
    | none => .null
  have hrecord : c.toJson.record? ["total_time", "window_time", "deadtime", "prefix", "autosave",
      "monitor", "format"] = some ⟨[some c.totalTime.toJson, some c.windowTime.toJson,
        some c.deadtime.toJson, some (.ofText c.filePrefix), some (.ofNat c.autosave.toNat),
        some monitor, some (.ofNat c.format.toNat)], false⟩ :=
    Json.record?_ofMembers _ (show ["total_time", "window_time", "deadtime", "prefix", "autosave",
      "monitor", "format"].Nodup by decide)
  have hmonitor : monitorOfJson? false (some monitor) = some c.monitor :=
    monitorOfJson?_toJson c.monitor
  simp only [ofJson?, hrecord, bind, Option.bind_some, hmonitor, Json.uint32?_ofNat]
  rfl

/-- The three times of a configuration have a property. -/
structure HasTimes (p : TimeText → Prop) (c : Configuration) : Prop where
  totalTime : p c.totalTime
  windowTime : p c.windowTime
  deadtime : p c.deadtime

/-- A configuration with times that can be had is read back from JSON only as the configuration, and
then its times are legal. -/
lemma ofJson?_toJson_eq_some_iff (hbuilt : c.HasTimes TimeText.IsBuilt) :
    ofJson? c.toJson = some r ↔ r = c ∧ c.HasTimes TimeText.IsLegal := by
  obtain ⟨htotal, hwindow, hdead⟩ := hbuilt
  simp only [ofJson?_toJson, bind, Option.bind_eq_some_iff, htotal.ofJson?_toJson_eq_some_iff,
    hwindow.ofJson?_toJson_eq_some_iff, hdead.ofJson?_toJson_eq_some_iff]
  constructor
  · rintro ⟨_, ⟨rfl, htotal⟩, _, ⟨rfl, hwindow⟩, _, ⟨rfl, hdead⟩, heq⟩
    exact ⟨(Option.some.inj heq).symm, htotal, hwindow, hdead⟩
  · rintro ⟨rfl, htotal, hwindow, hdead⟩
    exact ⟨_, ⟨rfl, htotal⟩, _, ⟨rfl, hwindow⟩, _, ⟨rfl, hdead⟩, rfl⟩

lemma isWritable_toJson (c : Configuration) : c.toJson.IsWritable := by
  have hmonitor : (match c.monitor with
      | some m => m.toJson
      | none => Json.null).IsWritable := by
    cases c.monitor with
    | none => trivial
    | some m =>
      exact ⟨rfl, Json.isNumber_digits _, rfl, Json.isNumber_digits _, rfl, rfl, trivial⟩
  exact ⟨rfl, rfl, rfl, rfl, rfl, rfl, rfl, rfl, rfl, Json.isNumber_digits _, rfl, hmonitor, rfl,
    Json.isNumber_digits _, trivial⟩

/-- A configuration with times that can be had is read from either text of its JSON, and from the
bytes of a file, only as the configuration, and exactly if its times are legal. -/
theorem read_written_iff (hbuilt : c.HasTimes TimeText.IsBuilt) :
    ((Json.read? c.toJson.compact).bind ofJson? = some r ↔ r = c ∧ c.HasTimes TimeText.IsLegal) ∧
    ((Json.read? c.toJson.pretty).bind ofJson? = some r ↔ r = c ∧ c.HasTimes TimeText.IsLegal) ∧
    (ofFile? (Text.toUtf8 c.toJson.pretty) = some r ↔ r = c ∧ c.HasTimes TimeText.IsLegal) := by
  obtain ⟨hcompact, hpretty⟩ := Json.read?_written c.isWritable_toJson
  refine ⟨?_, ?_, ?_⟩
  · rw [hcompact, Option.bind_some, ofJson?_toJson_eq_some_iff hbuilt]
  · rw [hpretty, Option.bind_some, ofJson?_toJson_eq_some_iff hbuilt]
  · simp only [ofFile?, Json.ofFile?, Text.ofUtf8?_toUtf8, hpretty, bind, Option.bind_some]
    exact ofJson?_toJson_eq_some_iff hbuilt

end Configuration

end TimingBoard
