import TimingBoard.Frame.Basic
import TimingBoard.Link.Basic
import TimingBoard.Reply.Basic
import TimingBoard.Request

/-!
# Errors

Every way in which a call to the board can fail, with what is needed to say so. Two of them mean
that the connection is lost; after any other the next command can be sent.
-/

namespace TimingBoard

/-- Why a connection could not be made. -/
inductive DialFault where
  /-- The address has no colon. -/
  | noPort
  /-- What follows the last colon of the address is no port number. -/
  | badPort
  /-- The name of the host holds a character that ends texts elsewhere. -/
  | hostWithNul
  /-- No host can have the name. -/
  | noSuchName
  /-- There is nobody to ask for the name of the host. -/
  | noNameService
  /-- The machine has no route to the address. -/
  | unreachable
  /-- The machine has no address of its own to dial this one from. -/
  | noSource
  /-- The address is valid on one link only, and does not say on which. -/
  | noInterface
  /-- Nothing listens at the address. -/
  | refused
  deriving DecidableEq

/-- The text of a fault. -/
def DialFault.message : DialFault → Text
  | .noPort => "invalid socket address".toList
  | .badPort => "invalid port value".toList
  | .hostWithNul => "file name contained an unexpected NUL byte".toList
  | .noSuchName => "failed to lookup address information: Name or service not known".toList
  | .noNameService =>
    "failed to lookup address information: Temporary failure in name resolution".toList
  | .unreachable => "Network is unreachable (os error 101)".toList
  | .noSource => "Cannot assign requested address (os error 99)".toList
  | .noInterface => "Invalid argument (os error 22)".toList
  | .refused => "Connection refused (os error 111)".toList

/-- Why a call failed. -/
inductive Error where
  /-- The request was refused; nothing was sent. -/
  | refused (cause : Refusal)
  /-- The link failed. -/
  | network (fault : LinkFault)
  /-- No connection was made. -/
  | connectionFailed (fault : DialFault)
  /-- The connection was lost before. -/
  | notConnected
  /-- No complete frame arrived within the wait. -/
  | timeout
  /-- The board rejected the command, with its own reason. -/
  | rejected (command : Command) (reason : Text)
  /-- The frame cannot answer the command. -/
  | unexpectedFrame (command : Command) (frame : Frame)
  /-- The reply is not of the kind that was asked for. -/
  | unexpectedReply (command : Command) (reply : Reply)
  /-- The frame can answer the command, but its payload breaks the grammar of its key. -/
  | malformed (command : Command) (frame : Frame)
  deriving DecidableEq

namespace Error

/-- Whether an error means that the connection is lost. -/
def losesConnection : Error → Bool
  | .network _ | .notConnected => true
  | _ => false

/-- The message about a reply that is shown as a text. -/
def aboutReply (command : Command) (verdict : String) (shown : Text) : Text :=
  "Command '".toList ++ command.line ++ "' returned ".toList ++ verdict.toList ++
    " response '".toList ++ shown ++ ['\'']

/-- The text of an error. -/
def message : Error → Text
  | .refused cause => "Invalid command: ".toList ++ cause.message
  | .network fault => "Network error: ".toList ++ fault.message
  | .connectionFailed fault =>
    "Connection failed: Failed to connect: ".toList ++ fault.message
  | .notConnected => "Not connected".toList
  | .timeout => "Timeout waiting for response".toList
  | .rejected command reason =>
    "Command '".toList ++ command.line ++ "' rejected by device: ".toList ++ reason
  | .unexpectedFrame command frame => aboutReply command "an unexpected" frame.text
  | .unexpectedReply command reply => aboutReply command "an unexpected" reply.describe
  | .malformed command frame => aboutReply command "a malformed" frame.text

end Error

end TimingBoard
