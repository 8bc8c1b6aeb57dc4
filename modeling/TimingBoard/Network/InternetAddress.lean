import TimingBoard.Number.Natural
import TimingBoard.Text.Bytes

/-!
# Internet addresses

The address of a machine has 32 bits, or 128 bits in eight groups. A short address is one to four
numbers with points between them, each in decimal, octal after a zero, or hexadecimal after `0x`;
the last number fills the bits that the others leave. A long address is written as hexadecimal
groups with colons between them, where one run of zero groups can be left out, and the last two
groups can be written as four decimal numbers.
-/

namespace TimingBoard

/-- An address of a machine. -/
inductive InternetAddress where
  /-- An address of 32 bits. -/
  | short (bits : UInt32)
  /-- An address of eight groups, and the number of the interface that it is valid on. Zero names no
  interface. -/
  | long (groups : List Nat) (zone : Nat)
  deriving DecidableEq

namespace InternetAddress

/-! ## Short addresses -/

/-- A number with its base in front. -/
def part? : Text → Option Nat
  | '0' :: c :: digits =>
    if c = 'x' ∨ c = 'X' then Natural.readInBase? 16 digits else Natural.readInBase? 8 (c :: digits)
  | t => Natural.readInBase? 10 t

/-- The bits of one to four numbers. All but the last are of eight bits. -/
def bitsOf? (numbers : List Nat) : Option UInt32 :=
  let bytes := numbers.dropLast
  let room := Nat.pow 256 (4 - bytes.length)
  match numbers.getLast? with
  | some last =>
    if bytes.length < 4 ∧ bytes.all (· < 256) ∧ last < room then
      some (UInt32.ofNat (bytes.foldl (256 * · + ·) 0 * room + last))
    else none
  | none => none

/-- The bits of a short address. -/
def shortBits? (t : Text) : Option UInt32 :=
  ((Text.fields (· == '.') t).mapM part?).bind bitsOf?

/-- The address of the machine itself. -/
def loopback : UInt32 := 0x7F000001

/-! ## Long addresses -/

/-- A decimal number of eight bits without leading zeros. -/
def octet? (t : Text) : Option Nat :=
  if t.head? = some '0' ∧ t ≠ ['0'] then none
  else (Natural.readInBase? 10 t).filter (· < 256)

/-- The two groups of four decimal numbers. -/
def dottedGroups? (t : Text) : Option (List Nat) :=
  match (Text.fields (· == '.') t).mapM octet? with
  | some [a, b, c, d] => some [256 * a + b, 256 * c + d]
  | _ => none

/-- A group of one to four hexadecimal digits. -/
def group? (t : Text) : Option Nat :=
  if t.length ≤ 4 then Natural.readInBase? 16 t else none

/-- The groups of the texts between colons, of which the last may be four decimal numbers. -/
def groups? : List Text → Option (List Nat)
  | [] => some []
  | [last] => ((group? last).map fun g => [g]) <|> dottedGroups? last
  | t :: rest => do return (← group? t) :: (← groups? rest)

/-- The texts between the colons of a part of an address, which may be empty. -/
def pieces (t : Text) : List Text :=
  if t = [] then [] else Text.fields (· == ':') t

/-- What stands before and after the first pair of colons. -/
def cutAtGap? : Text → Option (Text × Text)
  | ':' :: ':' :: rest => some ([], rest)
  | c :: rest => (cutAtGap? rest).map fun (front, back) => (c :: front, back)
  | [] => none

/-- The groups of a long address. A pair of colons stands for at least one zero group. -/
def longGroups? (t : Text) : Option (List Nat) :=
  match cutAtGap? t with
  | none => (groups? (pieces t)).filter (·.length == 8)
  | some (front, back) => do
    let front ← (pieces front).mapM group?
    let back ← groups? (pieces back)
    let given := front.length + back.length
    if given < 8 then some (front ++ List.replicate (8 - given) 0 ++ back) else none

/-- A short address in the form of a long one. -/
def isMapped (groups : List Nat) : Bool :=
  groups.take 6 == [0, 0, 0, 0, 0, 0xFFFF]

/-- An address of many machines at once. -/
def isMulticast (groups : List Nat) : Bool :=
  groups.head?.any (0xFF00 ≤ ·)

/-- An address that is valid on one link only. -/
def isLinkLocal (groups : List Nat) : Bool :=
  groups.head?.any fun g => 0xFE80 ≤ g && g < 0xFEC0

/-- An address that means something on one interface or one link only. -/
def needsZone (groups : List Nat) : Bool :=
  isLinkLocal groups ||
    (isMulticast groups && groups.head?.any fun g => g % 16 == 1 || g % 16 == 2)

/-! ## Zones -/

/-- A zone given by its number. -/
def zoneNumber? (t : Text) : Option Nat :=
  (Natural.readInBase? 10 t).filter (· < UInt32.size)

/-- The name of the only interface. An alias of an interface is its name, a colon and anything that
keeps the whole within 15 bytes, and it stands for the interface itself. -/
def isInterface (t : Text) : Bool :=
  t.takeWhile (· != ':') == "lo".toList && (Text.toUtf8 t).length ≤ 15

/-- A zone given by its number, or by the name of the only interface. -/
def zone? (groups : List Nat) (t : Text) : Option Nat :=
  if needsZone groups ∧ isInterface t then some 1 else zoneNumber? t

/-- A long address with a zone after a percent sign, if there is one. -/
def long? (zone? : List Nat → Text → Option Nat) (t : Text) : Option InternetAddress := do
  let groups ← longGroups? (t.takeWhile (· != '%'))
  match t.dropWhile (· != '%') with
  | [] => return .long groups 0
  | _ :: zone => return .long groups (← zone? groups zone)

/-- The address that a text spells out. -/
def read? (t : Text) : Option InternetAddress :=
  ((shortBits? t).map .short) <|> long? zone? t

/-- One number can be a whole address, and so can the last after others. -/
example : read? "127.1".toList = some (.short loopback) ∧
    read? "0x7f000001".toList = some (.short loopback) := by decide +kernel

/-- The groups that are left out are zero. -/
example : read? "fe80::1%lo".toList = some (.long [0xFE80, 0, 0, 0, 0, 0, 0, 1] 1) := by
  decide +kernel

end InternetAddress

end TimingBoard
