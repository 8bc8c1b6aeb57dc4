import TimingBoard.Json.Basic
import TimingBoard.Number.Natural

/-!
# Reading JSON

The text of a value is read from its start. Space, tab, line feed and carriage return may stand
around every part; nothing but these may follow the value. Nothing is read twice: each function
gives what it read and the rest of the text.

How deep values are nested is bounded by the length of the text only.
-/

namespace TimingBoard.Json

/-- White space between the parts of a value. -/
def isBlank (c : Char) : Bool :=
  c == ' ' || c == '\t' || c == '\n' || c == '\r'

/-- A text from its first character that is not blank. -/
def skipBlank (t : Text) : Text :=
  t.dropWhile isBlank

/-! ## Numbers -/

/-- The digits at the start of a text, at least one. -/
def digits? (t : Text) : Option (Text × Text) :=
  if t.takeWhile Char.isDigit = [] then none
  else some (t.takeWhile Char.isDigit, t.dropWhile Char.isDigit)

/-- The digits before the point: a zero alone, or digits that do not start with one. -/
def wholePart? : Text → Option (Text × Text)
  | '0' :: rest => some (['0'], rest)
  | t => digits? t

/-- A point with digits after it, if there is a point. -/
def fractionPart? : Text → Option (Text × Text)
  | '.' :: rest => (digits? rest).map fun (run, rest) => ('.' :: run, rest)
  | t => some ([], t)

/-- A sign, if there is one. -/
def exponentSign : Text → Text × Text
  | '+' :: rest => (['+'], rest)
  | '-' :: rest => (['-'], rest)
  | t => ([], t)

/-- An exponent, if there is one. -/
def exponentPart? : Text → Option (Text × Text)
  | e :: rest =>
    if e = 'e' ∨ e = 'E' then do
      let (sign, rest) := exponentSign rest
      let (run, rest) ← digits? rest
      return (e :: sign ++ run, rest)
    else some ([], e :: rest)
  | [] => some ([], [])

/-- The literal of a number. -/
def number? (t : Text) : Option (Text × Text) := do
  let (sign, rest) :=
    match t with
    | '-' :: rest => (['-'], rest)
    | rest => ([], rest)
  let (whole, rest) ← wholePart? rest
  let (fraction, rest) ← fractionPart? rest
  let (exponent, rest) ← exponentPart? rest
  return (sign ++ whole ++ fraction ++ exponent, rest)

/-! ## Strings -/

/-- A unit of a string literal: a character, or half of a surrogate pair. -/
inductive StringUnit where
  | character (c : Char)
  | surrogate (code : Nat)
  deriving DecidableEq

/-- The unit of four hexadecimal digits. -/
def codeUnit? (a b c d : Char) : Option StringUnit := do
  let code ← Natural.readInBase? 16 [a, b, c, d]
  return if 0xD800 ≤ code ∧ code ≤ 0xDFFF then .surrogate code else .character (Char.ofNat code)

/-- The character of a letter after a backslash. -/
def escaped? : Char → Option Char
  | '"' => some '"'
  | '\\' => some '\\'
  | '/' => some '/'
  | 'b' => some '\x08'
  | 'f' => some '\x0c'
  | 'n' => some '\n'
  | 'r' => some '\r'
  | 't' => some '\t'
  | _ => none

/-- The next unit of a string literal. A control character cannot stand for itself. -/
def unit? : Text → Option (StringUnit × Text)
  | '\\' :: 'u' :: a :: b :: c :: d :: rest => (codeUnit? a b c d).map (·, rest)
  | '\\' :: c :: rest => (escaped? c).map fun c => (.character c, rest)
  | c :: rest => if c.toNat < 0x20 ∨ c = '\\' then none else some (.character c, rest)
  | [] => none

/-- Reading a unit leaves less text. -/
theorem length_lt_of_unit? {t rest : Text} {u : StringUnit} (h : unit? t = some (u, rest)) :
    rest.length < t.length := by
  unfold unit? at h
  split at h
  · obtain ⟨_, _, heq⟩ := Option.map_eq_some_iff.1 h
    simp only [Prod.mk.injEq] at heq
    simp only [← heq.2, List.length_cons]
    omega
  · obtain ⟨_, _, heq⟩ := Option.map_eq_some_iff.1 h
    simp only [Prod.mk.injEq] at heq
    simp only [← heq.2, List.length_cons]
    omega
  · split at h
    · simp at h
    · simp only [Option.some.injEq, Prod.mk.injEq] at h
      simp [h.2]
  · simp at h

/-- The units of a string literal up to its closing quotation mark, and the text after it. -/
def units? (t : Text) : Option (List StringUnit × Text) :=
  match t with
  | '"' :: rest => some ([], rest)
  | t =>
    match _h : unit? t with
    | none => none
    | some (u, rest) => (units? rest).map fun (us, rest) => (u :: us, rest)
termination_by t.length
decreasing_by exact length_lt_of_unit? _h

/-- The text of a string literal, unless it holds half of a surrogate pair without the other. -/
def textOfUnits? : List StringUnit → Option Text
  | [] => some []
  | .character c :: rest => (textOfUnits? rest).map (c :: ·)
  | .surrogate high :: .surrogate low :: rest =>
    if high < 0xDC00 ∧ 0xDC00 ≤ low then
      (textOfUnits? rest).map
        (Char.ofNat (0x10000 + (high - 0xD800) * 0x400 + (low - 0xDC00)) :: ·)
    else none
  | .surrogate _ :: _ => none

/-- A string after its opening quotation mark. -/
def string? (t : Text) : Option (Option Text × Text) :=
  (units? t).map fun (us, rest) => (textOfUnits? us, rest)

/-! ## Values -/

/-- A word of the format and the value it stands for. -/
def word? (word : String) (value : Json) (t : Text) : Option (Json × Text) :=
  (word.toList.isPrefixOf? t).map fun rest => (value, rest)

mutual

/-- A value, read with at most the given number of steps. -/
def valueWithin : Nat → Text → Option (Json × Text)
  | 0, _ => none
  | steps + 1, t =>
    match skipBlank t with
    | '"' :: rest => (string? rest).map fun (s, rest) => (.string s, rest)
    | '[' :: rest =>
      match skipBlank rest with
      | ']' :: rest => some (.array [], rest)
      | rest => (itemsWithin steps rest).map fun (items, rest) => (.array items, rest)
    | '\x7b' :: rest =>
      match skipBlank rest with
      | '\x7d' :: rest => some (.object [], rest)
      | rest => (membersWithin steps rest).map fun (members, rest) => (.object members, rest)
    | 'n' :: rest => word? "ull" .null rest
    | 't' :: rest => word? "rue" (.bool true) rest
    | 'f' :: rest => word? "alse" (.bool false) rest
    | rest => (number? rest).map fun (literal, rest) => (.number literal, rest)

/-- The items of an array, at least one, and its closing bracket. -/
def itemsWithin : Nat → Text → Option (List Json × Text)
  | 0, _ => none
  | steps + 1, t => do
    let (item, rest) ← valueWithin steps t
    match skipBlank rest with
    | ']' :: rest => some ([item], rest)
    | ',' :: rest => (itemsWithin steps rest).map fun (items, rest) => (item :: items, rest)
    | _ => none

/-- The members of an object, at least one, and its closing bracket. -/
def membersWithin : Nat → Text → Option (List (Option Text × Json) × Text)
  | 0, _ => none
  | steps + 1, t =>
    match skipBlank t with
    | '"' :: rest => do
      let (name, rest) ← string? rest
      match skipBlank rest with
      | ':' :: rest =>
        let (value, rest) ← valueWithin steps rest
        match skipBlank rest with
        | '\x7d' :: rest => some ([(name, value)], rest)
        | ',' :: rest =>
          (membersWithin steps rest).map fun (members, rest) => ((name, value) :: members, rest)
        | _ => none
      | _ => none
    | _ => none

end

/-- The value that a text is. Two steps are enough for each character. -/
def read? (t : Text) : Option Json := do
  let (value, rest) ← valueWithin (2 * t.length + 2) t
  if skipBlank rest = [] then some value else none

end TimingBoard.Json
