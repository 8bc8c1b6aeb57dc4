import TimingBoard.Board.Connection
import TimingBoard.Network
import TimingBoard.Tool.FileTree
import TimingBoard.Tool.Run

/-!
# A bench for the tool

A machine to try the tool on that exists in memory only. It has files, something typed, a place to
print, and a network that may lead to a simulated board. The board lives on from one connection to
the next.
-/

namespace TimingBoard.Tool

/-- A machine to try the tool on. -/
structure Bench where
  files : FileTree
  network : Network Connection
  /-- What is typed and not read yet. -/
  typed : Text
  printed : Text

/-- How an invocation on a bench ended, and what it printed. -/
structure Outcome extends Ending where
  printed : Text
  deriving DecidableEq

namespace Bench

/-- A bench on which nothing has been done yet. -/
def fresh (files : FileTree) (network : Network Connection) : Bench :=
  ⟨files, network, [], []⟩

/-! ## Files -/

/-- The text that is typed, all of it. -/
def input : StateM Bench Text :=
  modifyGet fun b => (b.typed, { b with typed := [] })

/-- Prints a text. -/
def print (text : Text) : StateM Bench Unit :=
  modify fun b => { b with printed := b.printed ++ text }

/-- The contents of a file, if there is an end to them. Nothing can be read where the tool
prints. -/
def readFile (path : Text) : StateM Bench (Option Bytes) := do
  match (← get).files.file? path with
  | some (.stored contents) => return some contents
  | some .null => return some []
  | some .input => return some (Text.toUtf8 (← input))
  | some (.endless _) | some .output | some .complaints | none => return none

/-- Writes a file, if that is possible. Complaints that end well are not kept. -/
def writeFile (path : Text) (contents : Bytes) : StateM Bench Bool := do
  match (← get).files.file? path with
  | some .null | some .input | some .complaints => return true
  | some (.endless hasRoom) => return hasRoom || contents.isEmpty
  | some .output =>
    print (Text.ofUtf8Lossy contents)
    return true
  | some (.stored _) | none =>
    match (← get).files.store? path contents with
    | some files =>
      modify fun b => { b with files }
      return true
    | none => return false

/-! ## The network -/

/-- The bench after a connection was given back. -/
def hangUp (link : Connection) (b : Bench) : Bench :=
  match b.network with
  | .offline => b
  | .server port _ => { b with network := .server port (.toBoard link.board link.now) }

/-- Lets time pass for the board at the other end of a client. -/
def pass (span : Span) (s : SharedClient Connection) : SharedClient Connection :=
  let session := s.client.session
  let link := { session.link with clock := fun n => ⟨(session.link.clock n).nanos + span.nanos⟩ }
  { s with client := { s.client with session := { session with link := link } } }

/-- The time between two looks at the status. -/
def beat : Span := .ofMillis 1

/-- A number of looks at the status, with a beat before each. -/
def looks (n : Nat) : List (Poller.Happening Connection) :=
  (List.range n).flatMap fun k => [.user (pass beat), .tick ⟨(k + 1) * beat.nanos⟩]

/-! ## The host -/

/-- The bench as a host. -/
def host : Host (StateM Bench) Connection where
  readFile := readFile
  writeFile := writeFile
  print := print
  dial address := return (← get).network.dial address
  hangUp link := modify (hangUp link)
  input := input
  now := ⟨0⟩
  happenings := looks 3

/-- Runs the tool on the bench, where a text is typed. -/
def run (arguments : List Text) (typed : Text) (b : Bench) : Outcome × Bench :=
  let (ending, b) := (Tool.run host arguments).run { b with typed, printed := [] }
  (⟨ending, b.printed⟩, b)

end Bench

end TimingBoard.Tool
