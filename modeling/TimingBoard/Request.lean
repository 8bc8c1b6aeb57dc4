import TimingBoard.Text.Bytes
import TimingBoard.Text.Quoted

/-!
# Requests

A request is a command: a verb and an argument. Its line is the two with a space between them, or
the verb alone when there is no argument, and a line feed ends the line when it is sent. The
argument has no white space at its ends and no line break in it, so a command is always exactly one
line, and reading the line of a command gives the command back. The verb decides how the reply is
understood.

File names and prefixes in an argument must be single tokens, so that the board can tell where they
end: at least one character, and each an ASCII letter or digit, a point, an underscore, a hyphen or
a slash.

A request can be refused before anything is sent, because it could not be written as one line of
the protocol or because the board could not read it back. A refusal names its cause and leaves the
connection alone.
-/

namespace TimingBoard

/-! ## Verbs -/

/-- What a command asks for. -/
inductive Verb where
  /-- Change a setting. -/
  | set
  /-- Read a setting. -/
  | get
  /-- Control measurements and ask about them. -/
  | measure
  /-- An extension of the server, whose replies are not interpreted. -/
  | extend
  deriving DecidableEq

namespace Verb

/-- All verbs. -/
def all : List Verb := [.set, .get, .measure, .extend]

/-- The word for a verb on the line. -/
def word : Verb → Text
  | .set => "SET".toList
  | .get => "GET".toList
  | .measure => "MSR".toList
  | .extend => "EXT".toList

/-- The verb of a word. -/
def ofWord? (t : Text) : Option Verb :=
  all.find? fun v => v.word == t

/-- Every verb is found by its word. -/
@[simp] theorem ofWord?_word (v : Verb) : ofWord? v.word = some v := by
  cases v <;> decide

end Verb

/-! ## Refusals -/

/-- The part of a request that must be a single token. -/
inductive TokenRole where
  | filePrefix
  | monitorFile
  | targetFile
  deriving DecidableEq

/-- What a role is called in a message. -/
def TokenRole.name : TokenRole → Text
  | .filePrefix => "prefix".toList
  | .monitorFile => "monitor filename".toList
  | .targetFile => "filename".toList

/-- Why a request is refused. -/
inductive Refusal where
  /-- The line does not start with a verb. -/
  | unknownVerb (line : Text)
  /-- The argument would break the command into two lines. -/
  | lineBreak (verb : Verb) (argument : Text)
  /-- The text does not have the form of a time. -/
  | notATime (text : Text)
  /-- The text has the form of a time, but its number cannot be used. -/
  | timeOutOfRange (text : Text)
  /-- The value is not a token. -/
  | notAToken (role : TokenRole) (value : Text)
  /-- Autosave is on, but there is no prefix to name its files. -/
  | autosaveWithoutPrefix
  deriving DecidableEq

/-- The text of a refusal. -/
def Refusal.message : Refusal → Text
  | .unknownVerb line => "unknown command verb in '".toList ++ line ++ ['\'']
  | .lineBreak verb argument =>
    verb.word ++ ' ' :: Text.quoted argument ++ ": argument contains a line break".toList
  | .notATime text => "invalid time string '".toList ++ text ++ ['\'']
  | .timeOutOfRange text => "time string '".toList ++ text ++ "' is out of range".toList
  | .notAToken role value =>
    "invalid ".toList ++ role.name ++ ' ' :: Text.quoted value ++
      ": only letters, digits and ._-/ are allowed".toList
  | .autosaveWithoutPrefix => "autosave requires a file prefix".toList

/-! ## Tokens -/

namespace Token

/-- A character that a token can hold. -/
def isCharacter (c : Char) : Bool :=
  c.isAlphanum || c == '.' || c == '_' || c == '-' || c == '/'

/-- A text that is a token. -/
def isToken (t : Text) : Bool :=
  !t.isEmpty && t.all isCharacter

/-- Refuses a value that is not a token. -/
def require (role : TokenRole) (value : Text) : Except Refusal Unit :=
  if isToken value then .ok () else .error (.notAToken role value)

end Token

/-! ## Commands -/

/-- A command that can be sent. -/
structure Command where
  verb : Verb
  argument : Text
  trimmed : Text.trim argument = argument
  oneLine : argument.any Text.isLineBreak = false
  deriving DecidableEq

namespace Command

/-- The command of a verb with the trimmed argument, unless a line break is left in it. -/
def make (verb : Verb) (argument : Text) : Except Refusal Command :=
  if h : (Text.trim argument).any Text.isLineBreak = false then
    .ok ⟨verb, Text.trim argument, Text.trim_trim argument, h⟩
  else .error (.lineBreak verb (Text.trim argument))

/-- The line of a command, without its end. -/
def line (c : Command) : Text :=
  if c.argument = [] then c.verb.word else c.verb.word ++ ' ' :: c.argument

/-- Reads a line as typed: white space around it is dropped, the verb ends at the first space, and
the rest is the argument. -/
def read (typed : Text) : Except Refusal Command :=
  let line := Text.trim typed
  let (word, argument) := Text.cutAtSpace line
  match Verb.ofWord? word with
  | none => .error (.unknownVerb line)
  | some verb => make verb argument

/-- The bytes that are sent for a command. -/
def encode (c : Command) : Bytes :=
  Text.toUtf8 (c.line ++ ['\n'])

end Command

end TimingBoard
