import TimingBoard.Number.Numeral
import TimingBoard.Time.TimeText

/-!
# Command line arguments

Arguments are options and values. An option is a word after two hyphens, or a letter after one; its
value follows as the next argument, or in the same one after an equals sign, and directly behind a
letter. A value in an argument of its own must not look like an option. Letters of options without
value can be run together. After two hyphens alone all arguments are values.

No option may be given twice on one level, and every value is checked for its kind as soon as it is
met, so that of two mistakes the first one counts.
-/

namespace TimingBoard.Tool

/-! ## Kinds of values -/

/-- What a value must be. -/
inductive ValueKind where
  /-- Any text. -/
  | text
  /-- A file path: any text but an empty one. -/
  | path
  /-- A whole number below a limit. -/
  | whole (limit : Nat)
  /-- A binary64 number. -/
  | number
  /-- A time. -/
  | time
  deriving DecidableEq

/-- A whole number below a limit; a sign may precede it, and minus zero is zero. -/
def readWhole? (limit : Nat) : Text → Option Nat
  | '-' :: t => if t ≠ [] ∧ t.all (· == '0') then some 0 else none
  | t => Natural.read? limit t

/-- A time from a value. -/
def readTime? (t : Text) : Option TimeText :=
  match TimeText.read t with
  | .ok time => some time
  | .error _ => none

/-- Whether a value is of a kind. -/
def ValueKind.admits : ValueKind → Text → Bool
  | .text, _ => true
  | .path, t => t != []
  | .whole limit, t => (readWhole? limit t).isSome
  | .number, t => (Binary64.read? t).isSome
  | .time, t => (readTime? t).isSome

/-! ## Options -/

/-- An option that can be given. -/
structure OptionSpec where
  name : Text
  letter : Option Char
  /-- The kind of its value; `none` for an option without one. -/
  value : Option ValueKind

/-- An option without a value. -/
def flag (name : String) (letter : Option Char) : OptionSpec := ⟨name.toList, letter, none⟩

/-- An option with a value. -/
def valued (name : String) (kind : ValueKind) : OptionSpec := ⟨name.toList, none, some kind⟩

/-- What was given on one level: options with their values, and values by themselves. -/
structure Given where
  options : List (Text × Text)
  values : List Text

namespace Given

/-- Nothing given. -/
def nothing : Given := ⟨[], []⟩

/-- The value of an option, if it was given. -/
def option? (g : Given) (name : String) : Option Text :=
  g.options.lookup name.toList

/-- Whether an option was given. -/
def has (g : Given) (name : String) : Bool :=
  (g.option? name).isSome

/-- Adds an option with its value, unless it was given before or the value is not of its kind. -/
def add? (g : Given) (spec : OptionSpec) (value : Text) : Option Given :=
  if (g.options.lookup spec.name).isSome then none
  else if spec.value.all (·.admits value) then
    some { g with options := g.options ++ [(spec.name, value)] }
  else none

/-- Adds a value, if it is the next one that is expected. -/
def addValue? (g : Given) (kinds : List ValueKind) (value : Text) : Option Given :=
  match kinds[g.values.length]? with
  | some kind => if kind.admits value then some { g with values := g.values ++ [value] } else none
  | none => none

end Given

/-! ## Reading -/

/-- An argument by its look. -/
inductive Argument where
  /-- Two hyphens alone. -/
  | hyphens
  /-- An option by its name, with what follows an equals sign. -/
  | named (name : Text) (value : Option Text)
  /-- Letters after one hyphen. -/
  | letters (run : Text)
  | value (t : Text)
  deriving DecidableEq

/-- The look of an argument. A single hyphen is a value. -/
def Argument.of (t : Text) : Argument :=
  match t with
  | ['-', '-'] => .hyphens
  | '-' :: '-' :: rest =>
    match rest.dropWhile (· != '=') with
    | [] => .named rest none
    | _ :: given => .named (rest.takeWhile (· != '=')) (some given)
  | '-' :: c :: run => .letters (c :: run)
  | t => .value t

/-- Why the reading of arguments stops early. -/
inductive Stop where
  /-- Help was asked for. -/
  | help
  | misuse
  deriving DecidableEq

/-- The option that asks for help. -/
def helpOption : OptionSpec := flag "help" (some 'h')

/-- What comes of a value that may be missing or wrong. -/
def orMisuse {α : Type} : Option α → Except Stop α
  | some a => .ok a
  | none => .error .misuse

/-- Takes an option with its value. Help is given at once. -/
def Given.take (g : Given) (spec : OptionSpec) (value : Text) : Except Stop Given :=
  if spec.name = helpOption.name then .error .help else orMisuse (g.add? spec value)

/-- Reads letters after one hyphen. When the last one needs a value that is not there, its option
is given back. -/
def readLetters (specs : List OptionSpec) (g : Given) :
    Text → Except Stop (Given × Option OptionSpec)
  | [] => .ok (g, none)
  | c :: rest => do
    let spec ← orMisuse (specs.find? (·.letter == some c))
    if spec.value.isNone then readLetters specs (← g.take spec []) rest
    else
      match rest with
      | [] => return (g, some spec)
      | '=' :: given => return (← g.take spec given, none)
      | given => return (← g.take spec given, none)

/-- Reads the arguments of one level, given what was read before. -/
def readGiven (specs : List OptionSpec) (kinds : List ValueKind) (onlyValues : Bool) (g : Given) :
    List Text → Except Stop Given
  | [] => .ok g
  | t :: rest =>
    if onlyValues then do readGiven specs kinds true (← orMisuse (g.addValue? kinds t)) rest
    else
      match Argument.of t with
      | .hyphens => readGiven specs kinds true g rest
      | .value v => do readGiven specs kinds false (← orMisuse (g.addValue? kinds v)) rest
      | .named name given => do
        let spec ← orMisuse (specs.find? (·.name == name))
        match spec.value.isSome, given with
        | false, none => readGiven specs kinds false (← g.take spec []) rest
        | false, some _ => .error .misuse
        | true, some v => readGiven specs kinds false (← g.take spec v) rest
        | true, none =>
          match rest with
          | next :: rest =>
            match Argument.of next with
            | .value v => readGiven specs kinds false (← g.take spec v) rest
            | _ => .error .misuse
          | [] => .error .misuse
      | .letters run => do
        match ← readLetters specs g run with
        | (g, none) => readGiven specs kinds false g rest
        | (g, some spec) =>
          match rest with
          | next :: rest =>
            match Argument.of next with
            | .value v => readGiven specs kinds false (← g.take spec v) rest
            | _ => .error .misuse
          | [] => .error .misuse

end TimingBoard.Tool
