import TimingBoard.Number.Binary64

/-!
# Units of time

Times travel as a decimal number and one letter for the unit. Letter case matters: `m` is a
millisecond and `M` a minute.
-/

namespace TimingBoard

/-- A unit of time. -/
inductive TimeUnit where
  | micros
  | millis
  | seconds
  | minutes
  | hours
  deriving DecidableEq

namespace TimeUnit

/-- All units, the shortest first. -/
def all : List TimeUnit := [.micros, .millis, .seconds, .minutes, .hours]

/-- The letter of a unit. -/
def letter : TimeUnit → Char
  | .micros => 'u'
  | .millis => 'm'
  | .seconds => 's'
  | .minutes => 'M'
  | .hours => 'h'

/-- The unit of a letter. -/
def ofLetter? (c : Char) : Option TimeUnit :=
  all.find? fun u => u.letter == c

/-- Every unit is found by its letter. -/
@[simp] theorem ofLetter?_letter (u : TimeUnit) : ofLetter? u.letter = some u := by
  cases u <;> decide

/-- The length of a unit in seconds. -/
def length : TimeUnit → Binary64
  | .micros => .ofDecimal false 1 (-6)
  | .millis => .ofDecimal false 1 (-3)
  | .seconds => .ofNat 1
  | .minutes => .ofNat 60
  | .hours => .ofNat 3600

/-- Whether runs measured in a unit are long enough to be counted down. -/
def isCountable : TimeUnit → Bool
  | .micros | .millis => false
  | .seconds | .minutes | .hours => true

end TimeUnit

end TimingBoard
