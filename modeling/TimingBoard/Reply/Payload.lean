import TimingBoard.Frame.Basic
import TimingBoard.Reply.Basic
import TimingBoard.Request
import TimingBoard.Text.CharacterClass

/-!
# Payloads

The payload of a frame starts with a sentence of its key's grammar: the key, a space, and the parts
with single spaces between them. Each function here cuts the parts out of a payload, or finds that
it does not start with such a sentence. What follows the sentence is not looked at.

Numbers are runs of decimal digits of any script, as long as possible. Whether such a run stands
for a number in range is decided afterwards, by reading it.
-/

namespace TimingBoard.Payload

/-! ## Building blocks -/

/-- The rest of a text after a fixed start. -/
def after? (start : String) (t : Text) : Option Text :=
  start.toList.isPrefixOf? t

/-- The longest run of a class that a text starts with, at least one character, and the rest. -/
def run? (p : Char → Bool) (t : Text) : Option (Text × Text) :=
  if t.takeWhile p = [] then none else some (t.takeWhile p, t.dropWhile p)

/-- A number at the start of a text, and the rest. -/
def number? (t : Text) : Option (Text × Text) :=
  run? Text.isDecimalDigit t

/-- The given number of numbers with single spaces between them. -/
def numbers? : Nat → Text → Option (List Text)
  | 0, _ => some []
  | 1, t => (number? t).map fun (n, _) => [n]
  | k + 2, t => do
    let (n, rest) ← number? t
    let rest ← after? " " rest
    return n :: (← numbers? (k + 1) rest)

/-- The rest of a text after the given number of word runs with colons between them. -/
def afterWords? : Nat → Text → Option Text
  | 0, t => some t
  | 1, t => (run? Text.isWordCharacter t).map Prod.snd
  | k + 2, t => do
    let (_, rest) ← run? Text.isWordCharacter t
    let rest ← after? ":" rest
    afterWords? (k + 1) rest

/-! ## Values of settings -/

/-- A timing setting: its key, and the number and unit letter of its value. -/
def timing? (payload : Text) : Option (TimingKey × Text) := do
  let key ← TimingKey.ofWord? (payload.take 2)
  let rest ← after? " " (payload.drop 2)
  match TimeText.cutMagnitude rest with
  | ([], _) => none
  | (magnitude, letter :: _) =>
    if (TimeUnit.ofLetter? letter).isSome then some (key, magnitude ++ [letter]) else none
  | (_, []) => none

/-- The file prefix: a token. -/
def filePrefix? (payload : Text) : Option Text := do
  let rest ← after? "PREFIX " payload
  let (token, _) ← run? Token.isCharacter rest
  return token

/-- The autosave interval: a number. -/
def autosave? (payload : Text) : Option Text := do
  let rest ← after? "AUTOSAVE " payload
  let (n, _) ← number? rest
  return n

/-- The live monitor: two numbers and, perhaps after white space, a file name that may be empty. -/
def monitor? (payload : Text) : Option (Text × Text × Text) := do
  let rest ← after? "MONITOR " payload
  let (save, rest) ← number? rest
  let rest ← after? " " rest
  let (count, rest) ← number? rest
  return (save, count, (rest.dropWhile Text.isSpace).takeWhile Token.isCharacter)

/-- The announced number of agents. -/
def agents? (payload : Text) : Option Text := do
  let rest ← after? "AGENTS " payload
  let (n, _) ← number? rest
  return n

/-- One agent: a number and six words with colons between them. -/
def agent? (payload : Text) : Option (Text × Text) := do
  let rest ← after? "AGENT " payload
  let (id, rest) ← number? rest
  let rest ← after? " " rest
  let tail ← afterWords? 6 rest
  return (id, rest.take (rest.length - tail.length))

/-! ## Measurement data -/

/-- The announced number of measurements. -/
def measurementCount? (payload : Text) : Option Text := do
  let rest ← after? "LST NUM " payload
  let (n, _) ← number? rest
  return n

/-- One measurement: two numbers. -/
def measurement? (payload : Text) : Option (Text × Text) := do
  let rest ← after? "LST " payload
  match ← numbers? 2 rest with
  | [id, starts] => some (id, starts)
  | _ => none

/-- The announced number of statistics lines. -/
def statisticsCount? (payload : Text) : Option Text := do
  let rest ← after? "STAT NUM " payload
  let (n, _) ← number? rest
  return n

/-- One statistics line: ten numbers. -/
def statistics? (payload : Text) : Option (List Text) := do
  let rest ← after? "STAT " payload
  numbers? 10 rest

end TimingBoard.Payload
