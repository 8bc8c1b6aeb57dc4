import TimingBoard.Text.Basic

/-!
# Natural numbers as text

A number is written in decimal without leading zeros. It is read from ASCII digits, with an
optional plus sign before them and any number of leading zeros, and only if it is below the limit
of its type.

In another base, up to sixteen, it is read from the digits of the base alone, of which there must be
at least one; there may be any number of leading zeros.
-/

namespace TimingBoard.Natural

/-- The decimal digits of a number. -/
def digits (n : Nat) : Text :=
  Nat.toDigits 10 n

/-- The number that a run of ASCII digits stands for. -/
def value (t : Text) : Nat :=
  t.foldl (fun n c => 10 * n + (c.toNat - '0'.toNat)) 0

/-- A text without the plus sign it may start with. -/
def withoutPlus : Text → Text
  | '+' :: t => t
  | t => t

/-- Reads a number below the limit. -/
def read? (limit : Nat) (t : Text) : Option Nat :=
  let run := withoutPlus t
  if run ≠ [] ∧ run.all Char.isDigit ∧ value run < limit then some (value run) else none

/-- A number that is read is below the limit. -/
theorem lt_of_read? {limit : Nat} {t : Text} {n : Nat} (h : read? limit t = some n) :
    n < limit := by
  simp only [read?] at h
  split at h
  · next hrun =>
    obtain rfl := Option.some.inj h
    exact hrun.2.2
  · exact absurd h (by simp)

/-- Reads a 16-bit number. -/
def readUInt16? (t : Text) : Option UInt16 :=
  (read? UInt16.size t).map UInt16.ofNat

/-- Reads a 32-bit number. -/
def readUInt32? (t : Text) : Option UInt32 :=
  (read? UInt32.size t).map UInt32.ofNat

/-- Reads a 64-bit number. -/
def readUInt64? (t : Text) : Option UInt64 :=
  (read? UInt64.size t).map UInt64.ofNat

/-! ## Other bases -/

/-- The value of a digit, the hexadecimal ones included. -/
def digitValue? (c : Char) : Option Nat :=
  if c.isDigit then some (c.toNat - '0'.toNat)
  else if 'a' ≤ c ∧ c ≤ 'f' then some (c.toNat - 'a'.toNat + 10)
  else if 'A' ≤ c ∧ c ≤ 'F' then some (c.toNat - 'A'.toNat + 10)
  else none

/-- The number that a run of digits stands for, continued by one more digit of the base. -/
def appendDigit? (base n : Nat) (c : Char) : Option Nat :=
  (digitValue? c).bind fun d => if d < base then some (base * n + d) else none

/-- Reads a number in a base. -/
def readInBase? (base : Nat) (t : Text) : Option Nat :=
  if t = [] then none else t.foldlM (appendDigit? base) 0

/-- The digits of another base are refused. -/
example : readInBase? 8 ['0', '1', '7'] = some 15 ∧ readInBase? 8 ['8'] = none := by decide

end TimingBoard.Natural
