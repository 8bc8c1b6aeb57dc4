import TimingBoard.Time.TimeText

/-!
# Replies

What the frames of a reply amount to, once they are understood by the verb of the command: an
acknowledgement, the value of a setting, or measurement data. A reply that is accepted but carries
nothing the client uses is empty.

An error about a reply of the wrong kind shows the reply as a term: the name of its kind, and its
parts in brackets.
-/

namespace TimingBoard

/-! ## Parts of replies -/

/-- The timing settings. -/
inductive TimingKey where
  | totalTime
  | windowTime
  | deadtime
  deriving DecidableEq

namespace TimingKey

/-- All timing settings. -/
def all : List TimingKey := [.totalTime, .windowTime, .deadtime]

/-- The word for a timing setting on the line. -/
def word : TimingKey → Text
  | .totalTime => "TT".toList
  | .windowTime => "ST".toList
  | .deadtime => "TD".toList

/-- The timing setting of a word. -/
def ofWord? (t : Text) : Option TimingKey :=
  all.find? fun k => k.word == t

/-- Every timing setting is found by its word. -/
@[simp] theorem ofWord?_word (k : TimingKey) : ofWord? k.word = some k := by
  cases k <;> decide

end TimingKey

/-- A network agent of the server, with its hardware address. -/
structure Agent where
  id : UInt32
  mac : Text
  deriving DecidableEq

/-- A measurement that the server holds, with the number of starts it recorded. -/
structure Measurement where
  id : UInt32
  starts : UInt32
  deriving DecidableEq

/-- What stands for a line of a measurement list that could not be read. -/
def Measurement.placeholder : Measurement := ⟨0, 0⟩

/-- The ten numbers of a statistics line: the starts, the window time and the stops of the
channels 1 to 8. -/
structure Statistics where
  fields : List UInt64
  size_eq : fields.length = 10
  deriving DecidableEq

/-- What stands for a statistics line that could not be read. -/
def Statistics.zero : Statistics := ⟨List.replicate 10 0, by decide⟩

/-- The live monitor: it saves a file at every so many starts and keeps a number of them. -/
structure Monitor where
  save : UInt32
  count : UInt32
  filename : Text
  deriving DecidableEq

/-! ## Replies -/

/-- A reply. -/
inductive Reply where
  | ack
  | timing (key : TimingKey) (value : TimeText)
  | filePrefix (value : Text)
  | autosave (count : UInt32)
  | monitor (value : Monitor)
  | agents (list : List Agent)
  | status (text : Text)
  | measurements (list : List Measurement)
  | statistics (line : Statistics)
  | statisticsList (lines : List Statistics)
  | empty
  deriving DecidableEq

/-! ## Replies as terms -/

/-- A list as a term. -/
def describeList (items : List Text) : Text :=
  '[' :: Text.join ", ".toList items ++ [']']

/-- A term with one unnamed part. -/
def describeOne (name : String) (part : Text) : Text :=
  name.toList ++ '(' :: part ++ [')']

/-- A term with named parts. -/
def describeNamed (name : String) (parts : List (String × Text)) : Text :=
  name.toList ++ " \x7b ".toList ++
    Text.join ", ".toList (parts.map fun p => p.1.toList ++ ": ".toList ++ p.2) ++
    " \x7d".toList

/-- A timing setting as a term. -/
def TimingKey.describe : TimingKey → Text
  | .totalTime => "TotalTime".toList
  | .windowTime => "WindowTime".toList
  | .deadtime => "Deadtime".toList

/-- A unit as a term. -/
def TimeUnit.describe : TimeUnit → Text
  | .micros => "Micros".toList
  | .millis => "Millis".toList
  | .seconds => "Seconds".toList
  | .minutes => "Minutes".toList
  | .hours => "Hours".toList

/-- A time as a term. -/
def TimeText.describe (t : TimeText) : Text :=
  describeNamed "TimeString" [
    ("magnitude", Text.quoted t.magnitude),
    ("unit", match t.unit with
      | some unit => describeOne "Some" unit.describe
      | none => "None".toList)]

/-- A monitor as a term. -/
def Monitor.describe (m : Monitor) : Text :=
  describeNamed "MonitorConfig" [
    ("save", Natural.digits m.save.toNat),
    ("count", Natural.digits m.count.toNat),
    ("filename", Text.quoted m.filename)]

/-- An agent as a term. -/
def Agent.describe (a : Agent) : Text :=
  describeNamed "Agent" [("id", Natural.digits a.id.toNat), ("mac", Text.quoted a.mac)]

/-- A measurement as a term. -/
def Measurement.describe (m : Measurement) : Text :=
  describeNamed "MeasurementEntry" [
    ("id", Natural.digits m.id.toNat), ("starts", Natural.digits m.starts.toNat)]

/-- A statistics line as a term. -/
def Statistics.describe (s : Statistics) : Text :=
  describeOne "MeasurementStats"
    (describeList (s.fields.map fun n => Natural.digits n.toNat))

/-- A reply as a term. -/
def Reply.describe : Reply → Text
  | .ack => "Ack".toList
  | .timing key value =>
    describeNamed "Timing" [("key", key.describe), ("value", value.describe)]
  | .filePrefix value => describeOne "Prefix" (Text.quoted value)
  | .autosave count => describeOne "Autosave" (Natural.digits count.toNat)
  | .monitor value => describeOne "Monitor" value.describe
  | .agents list => describeOne "Agents" (describeList (list.map Agent.describe))
  | .status text => describeOne "Status" (Text.quoted text)
  | .measurements list =>
    describeOne "Measurements" (describeList (list.map Measurement.describe))
  | .statistics line => describeOne "Statistics" line.describe
  | .statisticsList lines =>
    describeOne "StatisticsList" (describeList (lines.map Statistics.describe))
  | .empty => "Empty".toList

/-- A time shows its digits and its unit. -/
example : (Reply.timing .windowTime ⟨['2', '0'], some .micros⟩).describe =
    ("Timing \x7b key: WindowTime, value: TimeString " ++
      "\x7b magnitude: \"20\", unit: Some(Micros) \x7d \x7d").toList := by decide

end TimingBoard
