import TimingBoard.Call
import TimingBoard.Reply.Payload

/-!
# Understanding replies

The verb of a command says which frames can answer it. A `SET` is accepted or rejected; a `GET` is
answered by a value or rejected; an `MSR` is answered by measurement data, or accepted, or
rejected; nothing is expected of the answer to an `EXT`.

Three replies announce a count and are followed by that many frames: agents, measurements and
statistics lines. These are asked for one after the other, and the first one that fails to arrive
fails the whole reply. A follow-up frame that cannot be read does not: an agent is left out, and a
measurement or a statistics line is replaced by zeros.
-/

namespace TimingBoard.Reply

/-! ## Lists -/

/-- Asks for the given number of frames and reads each of them. -/
def followUps {σ α : Type} (next : Call σ Frame) (read : Frame → α) : Nat → Call σ (List α)
  | 0 => pure []
  | n + 1 => do
    let frame ← next
    let rest ← followUps next read n
    return read frame :: rest

/-- Reads an agent from a frame that carries a value. -/
def readAgent? (f : Frame) : Option Agent :=
  if f.tag = .value then do
    let (id, mac) ← Payload.agent? f.payload
    return ⟨← Natural.readUInt32? id, mac⟩
  else none

/-- Reads a measurement, or gives the placeholder. -/
def readMeasurement (f : Frame) : Measurement :=
  let read : Option Measurement := do
    let (id, starts) ← Payload.measurement? f.payload
    return ⟨← Natural.readUInt32? id, ← Natural.readUInt32? starts⟩
  read.getD .placeholder

/-- Reads the ten numbers of a statistics line, or gives zeros. -/
def readStatistics (f : Frame) : Statistics :=
  match (Payload.statistics? f.payload).bind (·.mapM Natural.readUInt64?) with
  | some fields => if h : fields.length = 10 then ⟨fields, h⟩ else .zero
  | none => .zero

/-! ## Replies by verb -/

/-- The reply of a frame that accepts or rejects a command. -/
def decodeVerdict (c : Command) (f : Frame) : Except Error Reply :=
  match f.tag with
  | .accepted => .ok .ack
  | .rejected => .error (.rejected c f.payload)
  | .value | .measurement => .error (.unexpectedFrame c f)

/-- The value that a payload holds, or the error that it is malformed. -/
def orMalformed {α : Type} (c : Command) (f : Frame) : Option α → Except Error α
  | some a => .ok a
  | none => .error (.malformed c f)

/-- A timing setting from its payload. -/
def timing? (payload : Text) : Option Reply := do
  let (key, text) ← Payload.timing? payload
  match TimeText.read text with
  | .ok value => some (.timing key value)
  | .error _ => none

/-- The file prefix from its payload; the word `NONE` stands for no prefix. -/
def filePrefix? (payload : Text) : Option Reply := do
  let token ← Payload.filePrefix? payload
  return .filePrefix (if token = "NONE".toList then [] else token)

/-- The autosave interval from its payload. -/
def autosave? (payload : Text) : Option Reply := do
  let n ← Payload.autosave? payload
  return .autosave (← Natural.readUInt32? n)

/-- The live monitor from its payload. -/
def monitor? (payload : Text) : Option Reply := do
  let (save, count, filename) ← Payload.monitor? payload
  return .monitor ⟨← Natural.readUInt32? save, ← Natural.readUInt32? count, filename⟩

/-- A count of follow-up frames that a payload announces. -/
def announced? (run : Option Text) : Option Nat :=
  run.bind (Natural.read? UInt64.size)

/-- The reply of a frame that carries the value of a setting. -/
def decodeValue {σ : Type} (next : Call σ Frame) (c : Command) (f : Frame) : Call σ Reply :=
  let key := f.key
  if (TimingKey.ofWord? key).isSome then Call.ofExcept (orMalformed c f (timing? f.payload))
  else if key = "PREFIX".toList then Call.ofExcept (orMalformed c f (filePrefix? f.payload))
  else if key = "AUTOSAVE".toList then Call.ofExcept (orMalformed c f (autosave? f.payload))
  else if key = "MONITOR".toList then Call.ofExcept (orMalformed c f (monitor? f.payload))
  else if key = "AGENTS".toList then do
    let count ← Call.ofExcept (orMalformed c f (announced? (Payload.agents? f.payload)))
    let agents ← followUps next readAgent? count
    return .agents (agents.filterMap id)
  else pure .empty

/-- The reply of a frame that carries measurement data. A list without a count is empty, and
statistics without a count are one line. -/
def decodeMeasurement {σ : Type} (next : Call σ Frame) (c : Command) (f : Frame) :
    Call σ Reply :=
  let key := f.key
  if key = "STATUS".toList then pure (.status (f.payload.drop 7))
  else if key = "LST".toList then
    match Payload.measurementCount? f.payload with
    | none => pure (.measurements [])
    | some run => do
      let count ← Call.ofExcept (orMalformed c f (announced? (some run)))
      return .measurements (← followUps next readMeasurement count)
  else if key = "STAT".toList then
    match Payload.statisticsCount? f.payload with
    | none => pure (.statistics (readStatistics f))
    | some run => do
      let count ← Call.ofExcept (orMalformed c f (announced? (some run)))
      return .statisticsList (← followUps next readStatistics count)
  else pure .empty

/-- The reply to a command that starts with a frame; `next` asks for each further one. -/
def decode {σ : Type} (next : Call σ Frame) (c : Command) (f : Frame) : Call σ Reply :=
  match c.verb, f.tag with
  | .set, _ => Call.ofExcept (decodeVerdict c f)
  | .get, .value => decodeValue next c f
  | .get, .rejected => Call.ofExcept (decodeVerdict c f)
  | .get, _ => Call.fail (.unexpectedFrame c f)
  | .measure, .measurement => decodeMeasurement next c f
  | .measure, _ => Call.ofExcept (decodeVerdict c f)
  | .extend, _ => pure .empty

end TimingBoard.Reply
