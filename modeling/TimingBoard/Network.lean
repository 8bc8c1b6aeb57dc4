import TimingBoard.Error
import TimingBoard.Network.HostName
import TimingBoard.Network.InternetAddress
import TimingBoard.Number.Natural

/-!
# Dialling

A server is dialled at an endpoint, the address of a machine and a port. An endpoint is written as a
host with a colon and the port after it; the port follows the last colon. The host is the address of
the machine, or its name, which must be found first. Whether dialling leads anywhere depends on the
network of the machine that dials.
-/

namespace TimingBoard

/-! ## Endpoints -/

/-- A host and a port, as they are written. -/
structure Address where
  host : Text
  port : UInt16
  deriving DecidableEq

/-- Reads a host and a port. -/
def Address.read (t : Text) : Except DialFault Address :=
  match t.reverse.dropWhile (· != ':') with
  | [] => .error .noPort
  | _ :: host =>
    match Natural.readUInt16? (t.reverse.takeWhile (· != ':')).reverse with
    | some port => .ok ⟨host.reverse, port⟩
    | none => .error .badPort

/-- The address of a machine and a port. -/
structure Endpoint where
  machine : InternetAddress
  port : UInt16
  deriving DecidableEq

namespace Endpoint

/-- The address of a host. Names are found without a network only for the machine itself. -/
def machineOf (host : Text) : Except DialFault InternetAddress :=
  if host.contains '\x00' then .error .hostWithNul
  else
    match InternetAddress.read? host with
    | some machine => .ok machine
    | none =>
      if HostName.isThisMachine host then .ok (.short InternetAddress.loopback)
      else if HostName.isAskable host then .error .noNameService
      else .error .noSuchName

/-- A port of digits only. -/
def port? (t : Text) : Option UInt16 :=
  ((Natural.readInBase? 10 t).filter (· < UInt16.size)).map UInt16.ofNat

/-- An endpoint with a long address in brackets. The zone is given by its number only. -/
def bracketed? : Text → Option Endpoint
  | '[' :: t =>
    match t.dropWhile (· != ']') with
    | ']' :: ':' :: port => do
      let numbered (_ : List Nat) (zone : Text) : Option Nat := InternetAddress.zoneNumber? zone
      return ⟨← InternetAddress.long? numbered (t.takeWhile (· != ']')), ← port? port⟩
    | _ => none
  | _ => none

/-- Reads an endpoint. -/
def read (t : Text) : Except DialFault Endpoint :=
  match bracketed? t with
  | some endpoint => .ok endpoint
  | none => do
    let address ← Address.read t
    return ⟨← machineOf address.host, address.port⟩

end Endpoint

/-! ## Networks -/

/-- What the network of a machine leads to. -/
inductive Network (L : Type) where
  /-- Nothing, not even the machine itself. -/
  | offline
  /-- The machine itself, where a server listens at a port. -/
  | server (port : UInt16) (link : L)

namespace Network

/-- Why a machine without a network cannot dial an address. -/
def faultOffline : InternetAddress → DialFault
  | .short _ => .unreachable
  | .long groups zone =>
    if InternetAddress.isMapped groups || InternetAddress.isMulticast groups then .unreachable
    else if InternetAddress.isLinkLocal groups && zone == 0 then .noInterface
    else .noSource

/-- Dials an address. -/
def dial {L : Type} (network : Network L) (address : Text) : Except DialFault L := do
  let endpoint ← Endpoint.read address
  match network with
  | .offline => throw (faultOffline endpoint.machine)
  | .server port link =>
    if endpoint.machine = .short InternetAddress.loopback ∨ endpoint.machine = .short 0 then
      if endpoint.port = port then pure link else throw .refused
    else throw (faultOffline endpoint.machine)

end Network

end TimingBoard
