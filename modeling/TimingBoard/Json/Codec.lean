import TimingBoard.Client.Configuration
import TimingBoard.Client.Settings
import TimingBoard.Json.Number
import TimingBoard.Json.Read
import TimingBoard.Json.Record

/-!
# Values of the library as JSON

Records are written with all their fields in order. Times are written as their texts, spans as
fractional seconds, and cases without parts as their names. What is read back may leave out fields
that have a default: all of the connection settings, and of a configuration the format and, in an
object, the monitor.
-/

namespace TimingBoard

/-- A number as JSON. -/
def Json.ofNat (n : Nat) : Json := .number (Natural.digits n)

/-- A 32-bit number from JSON. -/
def Json.uint32? (j : Json) : Option UInt32 :=
  (j.unsigned? UInt32.size).map UInt32.ofNat

/-! ## Cases -/

/-- A unit as JSON. -/
def TimeUnit.toJson (u : TimeUnit) : Json := .ofText u.describe

/-- A unit from JSON. -/
def TimeUnit.ofJson? (j : Json) : Option TimeUnit := j.case? all describe

/-- A timing setting as JSON. -/
def TimingKey.toJson (k : TimingKey) : Json := .ofText k.describe

/-- A timing setting from JSON. -/
def TimingKey.ofJson? (j : Json) : Option TimingKey := j.case? all describe

/-- A phase as text. -/
def Phase.describe : Phase → Text
  | .idle => "Idle".toList
  | .running => "Running".toList

/-- A phase as JSON. -/
def Phase.toJson (p : Phase) : Json := .ofText p.describe

/-- A phase from JSON. -/
def Phase.ofJson? (j : Json) : Option Phase := j.case? [.idle, .running] describe

/-! ## Times -/

/-- A time as JSON. -/
def TimeText.toJson (t : TimeText) : Json := .ofText t.text

/-- A time from JSON. -/
def TimeText.ofJson? (j : Json) : Option TimeText := do
  match TimeText.read (← j.text?) with
  | .ok t => some t
  | .error _ => none

/-- A span as JSON. -/
def Span.toJson (s : Span) : Json :=
  match s.toBinary64.fractional? with
  | some literal => .number literal
  | none => .null

/-- A span from JSON. -/
def Span.ofJson? (j : Json) : Option Span := do
  match Span.ofBinary64 (← j.binary64?) with
  | .ok s => some s
  | .error _ => none

/-! ## Parts of replies -/

/-- An agent as JSON. -/
def Agent.toJson (a : Agent) : Json :=
  .ofMembers [("id", .ofNat a.id.toNat), ("mac", .ofText a.mac)]

/-- An agent from JSON. -/
def Agent.ofJson? (j : Json) : Option Agent := do
  match (← j.record? ["id", "mac"]).values with
  | [some id, some mac] => return ⟨← id.uint32?, ← mac.text?⟩
  | _ => none

/-- A measurement as JSON. -/
def Measurement.toJson (m : Measurement) : Json :=
  .ofMembers [("id", .ofNat m.id.toNat), ("starts", .ofNat m.starts.toNat)]

/-- A measurement from JSON. -/
def Measurement.ofJson? (j : Json) : Option Measurement := do
  match (← j.record? ["id", "starts"]).values with
  | [some id, some starts] => return ⟨← id.uint32?, ← starts.uint32?⟩
  | _ => none

/-- A statistics line as JSON. -/
def Statistics.toJson (s : Statistics) : Json :=
  .array (s.fields.map fun n => .ofNat n.toNat)

/-- A statistics line from JSON: an array of ten 64-bit numbers. -/
def Statistics.ofJson? (j : Json) : Option Statistics := do
  let fields ← (← j.items?).mapM fun n => (n.unsigned? UInt64.size).map UInt64.ofNat
  if h : fields.length = 10 then some ⟨fields, h⟩ else none

/-- A monitor as JSON. -/
def Monitor.toJson (m : Monitor) : Json :=
  .ofMembers [("save", .ofNat m.save.toNat), ("count", .ofNat m.count.toNat),
    ("filename", .ofText m.filename)]

/-- A monitor from JSON. -/
def Monitor.ofJson? (j : Json) : Option Monitor := do
  match (← j.record? ["save", "count", "filename"]).values with
  | [some save, some count, some filename] =>
    return ⟨← save.uint32?, ← count.uint32?, ← filename.text?⟩
  | _ => none

/-! ## Configurations -/

/-- A configuration as JSON. -/
def Configuration.toJson (c : Configuration) : Json :=
  .ofMembers [("total_time", c.totalTime.toJson), ("window_time", c.windowTime.toJson),
    ("deadtime", c.deadtime.toJson), ("prefix", .ofText c.filePrefix),
    ("autosave", .ofNat c.autosave.toNat),
    ("monitor", match c.monitor with
      | some m => m.toJson
      | none => .null),
    ("format", .ofNat c.format.toNat)]

/-- The monitor of a configuration. It may be left out of an object, but not of an array. -/
def Configuration.monitorOfJson? (inOrder : Bool) : Option Json → Option (Option Monitor)
  | none => if inOrder then none else some none
  | some .null => some none
  | some j => (Monitor.ofJson? j).map some

/-- A configuration from JSON. -/
def Configuration.ofJson? (j : Json) : Option Configuration := do
  let view ← j.record? ["total_time", "window_time", "deadtime", "prefix", "autosave", "monitor",
    "format"]
  match view.values with
  | [some totalTime, some windowTime, some deadtime, some filePrefix, some autosave, monitor,
      format] =>
    return ⟨← TimeText.ofJson? totalTime, ← TimeText.ofJson? windowTime,
      ← TimeText.ofJson? deadtime, ← filePrefix.text?, ← autosave.uint32?,
      ← monitorOfJson? view.inOrder monitor,
      ← match format with
        | some n => n.uint32?
        | none => some defaultFormat⟩
  | _ => none

/-! ## Connection settings -/

/-- Connection settings as JSON. -/
def ConnectionSettings.toJson (s : ConnectionSettings) : Json :=
  .ofMembers [("host", .ofText s.host), ("port", .ofNat s.port.toNat),
    ("poll_interval", s.pollInterval.toJson), ("response_timeout", s.responseTimeout.toJson)]

/-- The value of a field, or its default when it is left out. -/
def Json.orDefault? {α : Type} (default : α) (read : Json → Option α) : Option Json → Option α
  | none => some default
  | some j => read j

/-- Connection settings from JSON. -/
def ConnectionSettings.ofJson? (j : Json) : Option ConnectionSettings := do
  match (← j.record? ["host", "port", "poll_interval", "response_timeout"]).values with
  | [host, port, pollInterval, responseTimeout] =>
    return ⟨← Json.orDefault? standard.host Json.text? host,
      ← Json.orDefault? standard.port
        (fun j => (j.unsigned? UInt16.size).map UInt16.ofNat) port,
      ← Json.orDefault? standard.pollInterval Span.ofJson? pollInterval,
      ← Json.orDefault? standard.responseTimeout Span.ofJson? responseTimeout⟩
  | _ => none

/-! ## Files -/

/-- The value in a file: UTF-8 text that is JSON of the right form. -/
def Json.ofFile? {α : Type} (ofJson? : Json → Option α) (bytes : Bytes) : Option α := do
  ofJson? (← Json.read? (← Text.ofUtf8? bytes))

/-- Connection settings as a file. -/
def ConnectionSettings.toFile (s : ConnectionSettings) : Bytes :=
  Text.toUtf8 s.toJson.pretty

/-- Connection settings from a file. -/
def ConnectionSettings.ofFile? (bytes : Bytes) : Option ConnectionSettings :=
  Json.ofFile? ofJson? bytes

/-- A configuration from a file. -/
def Configuration.ofFile? (bytes : Bytes) : Option Configuration :=
  Json.ofFile? ofJson? bytes

end TimingBoard
