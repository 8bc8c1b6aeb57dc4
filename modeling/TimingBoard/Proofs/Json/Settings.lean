import TimingBoard.Proofs.Json.Configurations
import TimingBoard.Proofs.Json.Spans

/-!
# Connection settings in files

The settings of a client are kept in a file as an object.  Its host, which may be any text, and its
port are read back as they were, and so are its spans as far as a number of seconds can tell them
apart.
-/

namespace TimingBoard

lemma Json.uint16?_ofNat (n : UInt16) :
    ((ofNat n.toNat).unsigned? UInt16.size).map UInt16.ofNat = some n := by
  have hdigits : (Natural.digits n.toNat).all Char.isDigit = true :=
    List.all_eq_true.2 fun _ => Natural.isDigit_of_mem_digits
  simp [unsigned?, ofNat, hdigits, Natural.value_digits, n.toNat_lt]

/-- A span is read back as another one: off by at most its 2 ^ 50th part, and not at all if it is at
most 2 ^ 23 seconds long. -/
structure Span.IsReadAs (s t : Span) : Prop where
  close : |(t.nanos - s.nanos : ℤ)| * 2 ^ 50 ≤ s.nanos
  eq_of_le : s.nanos ≤ 2 ^ 23 * 10 ^ 9 → t = s

/-- A span is short enough to be read back: it is shorter than 2 ^ 64 - 1024 seconds. -/
def Span.IsKeepable (s : Span) : Prop :=
  s.nanos < (2 ^ 64 - 2 ^ 10) * 10 ^ 9

lemma Span.isReadAs_of_ofJson?_toJson {s t : Span} (h : ofJson? s.toJson = some t) : s.IsReadAs t :=
  ⟨abs_sub_le_of_ofJson?_toJson h, eq_of_ofJson?_toJson h⟩

namespace ConnectionSettings

variable {s r : ConnectionSettings}

/-- The settings are read from the values of their members. -/
lemma ofJson?_ofMembers (host : Text) (port : UInt16) (poll response : Json) :
    ofJson? (.ofMembers [("host", .ofText host), ("port", .ofNat port.toNat),
      ("poll_interval", poll), ("response_timeout", response)]) = (do
    return ⟨host, port, ← Span.ofJson? poll, ← Span.ofJson? response⟩) := by
  have hrecord : (Json.ofMembers [("host", .ofText host), ("port", .ofNat port.toNat),
      ("poll_interval", poll), ("response_timeout", response)]).record?
        ["host", "port", "poll_interval", "response_timeout"] =
      some ⟨[some (.ofText host), some (.ofNat port.toNat), some poll, some response], false⟩ :=
    Json.record?_ofMembers _
      (show ["host", "port", "poll_interval", "response_timeout"].Nodup by decide)
  simp only [ofJson?, hrecord, bind, Option.bind_some, Json.orDefault?, Json.uint16?_ofNat]
  rfl

lemma isWritable_toJson (s : ConnectionSettings) : s.toJson.IsWritable := by
  obtain ⟨poll, hpoll, hpollNumber⟩ := s.pollInterval.exists_toJson_eq
  obtain ⟨response, hresponse, hresponseNumber⟩ := s.responseTimeout.exists_toJson_eq
  rw [toJson, hpoll, hresponse]
  exact ⟨rfl, rfl, rfl, Json.isNumber_digits _, rfl, hpollNumber, rfl, hresponseNumber, trivial⟩

/-- The settings are read from their file with the spans that are read from theirs. -/
lemma ofFile?_toFile_eq_some_iff : ofFile? s.toFile = some r ↔
    (r.host = s.host ∧ r.port = s.port) ∧ Span.ofJson? s.pollInterval.toJson = some r.pollInterval ∧
      Span.ofJson? s.responseTimeout.toJson = some r.responseTimeout := by
  obtain ⟨-, hpretty⟩ := Json.read?_written s.isWritable_toJson
  have hfile : ofFile? s.toFile = ofJson? s.toJson := by
    simp only [ofFile?, toFile, Json.ofFile?, Text.ofUtf8?_toUtf8, hpretty, bind, Option.bind_some]
  rw [hfile, toJson, ofJson?_ofMembers]
  simp only [bind, Option.bind_eq_some_iff]
  constructor
  · rintro ⟨poll, hpoll, response, hresponse, heq⟩
    obtain rfl := Option.some.inj heq
    exact ⟨⟨rfl, rfl⟩, hpoll, hresponse⟩
  · rintro ⟨⟨hhost, hport⟩, hpoll, hresponse⟩
    refine ⟨_, hpoll, _, hresponse, congrArg some ?_⟩
    cases r
    simp_all

/-- **Settings survive their file, as far as seconds can tell.**  Settings are read back from their
file exactly if both spans are shorter than 2 ^ 64 - 1024 seconds.  Then the host and the port are
the same, and each span is off by at most its 2 ^ 50th part; a span of at most 2 ^ 23 seconds is the
same. -/
theorem ofFile?_of_toFile (s : ConnectionSettings) :
    ((∃ r, ofFile? s.toFile = some r) ↔ s.pollInterval.IsKeepable ∧ s.responseTimeout.IsKeepable) ∧
    (∀ r, ofFile? s.toFile = some r → r.host = s.host ∧ r.port = s.port ∧
      s.pollInterval.IsReadAs r.pollInterval ∧ s.responseTimeout.IsReadAs r.responseTimeout) ∧
    (s.pollInterval.nanos ≤ 2 ^ 23 * 10 ^ 9 → s.responseTimeout.nanos ≤ 2 ^ 23 * 10 ^ 9 →
      ofFile? s.toFile = some s) := by
  have hread : (∃ r, ofFile? s.toFile = some r) ↔
      s.pollInterval.IsKeepable ∧ s.responseTimeout.IsKeepable := by
    unfold Span.IsKeepable
    rw [← Span.exists_ofJson?_toJson_iff, ← Span.exists_ofJson?_toJson_iff]
    simp only [ofFile?_toFile_eq_some_iff]
    constructor
    · rintro ⟨r, -, hpoll, hresponse⟩
      exact ⟨⟨_, hpoll⟩, ⟨_, hresponse⟩⟩
    · rintro ⟨⟨poll, hpoll⟩, ⟨response, hresponse⟩⟩
      exact ⟨⟨s.host, s.port, poll, response⟩, ⟨rfl, rfl⟩, hpoll, hresponse⟩
  have hsame : ∀ r, ofFile? s.toFile = some r → r.host = s.host ∧ r.port = s.port ∧
      s.pollInterval.IsReadAs r.pollInterval ∧ s.responseTimeout.IsReadAs r.responseTimeout := by
    intro r hr
    obtain ⟨⟨hhost, hport⟩, hpoll, hresponse⟩ := ofFile?_toFile_eq_some_iff.1 hr
    exact ⟨hhost, hport, Span.isReadAs_of_ofJson?_toJson hpoll,
      Span.isReadAs_of_ofJson?_toJson hresponse⟩
  refine ⟨hread, hsame, fun hpoll hresponse => ?_⟩
  obtain ⟨r, hr⟩ := hread.2 ⟨hpoll.trans_lt (by decide), hresponse.trans_lt (by decide)⟩
  obtain ⟨hhost, hport, hpollAs, hresponseAs⟩ := hsame r hr
  obtain rfl : r = s := by
    have hpoll := hpollAs.eq_of_le hpoll
    have hresponse := hresponseAs.eq_of_le hresponse
    cases r
    cases s
    simp_all
  exact hr

/-- The standard settings with another time between two looks. -/
def withPause (pause : Span) : ConnectionSettings :=
  { standard with pollInterval := pause }

/-- A pause of half a second is read back as it is, and one of 2 ^ 53 - 1 seconds as a similar
one. -/
theorem ofFile?_of_toFile_halfSecond :
    ofFile? (withPause (.ofMillis 500)).toFile = some (withPause (.ofMillis 500)) ∧
    ∃ r, ofFile? (withPause (.ofSeconds (2 ^ 53 - 1))).toFile = some r ∧
      r.host = "127.0.0.1".toList ∧ r.port = 2606 ∧ r.responseTimeout = .ofSeconds 5 ∧
      |(r.pollInterval.nanos - (2 ^ 53 - 1) * 10 ^ 9 : ℤ)| * 2 ^ 50 ≤ (2 ^ 53 - 1) * 10 ^ 9 := by
  obtain ⟨-, -, hexact⟩ := ofFile?_of_toFile (withPause (.ofMillis 500))
  refine ⟨hexact (by decide) (by decide), ?_⟩
  obtain ⟨hread, hsame, -⟩ := ofFile?_of_toFile (withPause (.ofSeconds (2 ^ 53 - 1)))
  obtain ⟨r, hr⟩ := hread.2 ⟨show _ < _ by decide, show _ < _ by decide⟩
  obtain ⟨hhost, hport, hpoll, hresponse⟩ := hsame r hr
  refine ⟨r, hr, hhost, hport, hresponse.eq_of_le (by decide), ?_⟩
  have hlength : (withPause (.ofSeconds (2 ^ 53 - 1))).pollInterval.nanos =
      (2 ^ 53 - 1) * 10 ^ 9 := by decide
  have hclose := hpoll.close
  rw [hlength] at hclose
  exact_mod_cast hclose

/-- A nanosecond more than 2 ^ 23 seconds is read back as two, 2 ^ 53 - 1 seconds as a second less,
and the longest span not at all. -/
theorem not_ofFile?_of_toFile_longPause :
    ofFile? (withPause (.ofSeconds (2 ^ 53 - 1))).toFile ≠
      some (withPause (.ofSeconds (2 ^ 53 - 1))) ∧
    ofFile? (withPause (.ofSeconds (2 ^ 53 - 1))).toFile =
      some (withPause (.ofSeconds (2 ^ 53 - 2))) ∧
    ofFile? (withPause (.ofNanos (2 ^ 23 * 10 ^ 9 + 1))).toFile =
      some (withPause (.ofNanos (2 ^ 23 * 10 ^ 9 + 2))) ∧
    ofFile? (withPause .longest).toFile = none := by
  decide +kernel

end ConnectionSettings

end TimingBoard
