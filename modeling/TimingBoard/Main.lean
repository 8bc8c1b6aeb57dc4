import TimingBoard.Board.Connection
import TimingBoard.Network
import TimingBoard.Tool.Run

/-!
# The command line tool

The tool on a machine with files and a terminal, but without a network: every address is out of
reach.
-/

namespace TimingBoard

/-- This machine as a host. -/
def machine : Tool.Host IO Connection where
  readFile path := do
    try
      return some (← IO.FS.readBinFile (String.ofList path)).toList
    catch _ => return none
  writeFile path contents := do
    try
      IO.FS.writeBinFile (String.ofList path) contents.toByteArray
      return true
    catch _ => return false
  print text := IO.print (String.ofList text)
  dial address := return Network.offline.dial address
  hangUp _ := return ()
  input := return (← (← IO.getStdin).readToEnd).toList
  now := ⟨0⟩
  happenings := []

end TimingBoard

/-- Runs the tool and tells of its ending. -/
def main (arguments : List String) : IO UInt32 := do
  let ending ← TimingBoard.Tool.run TimingBoard.machine (arguments.map String.toList)
  if let some complaint := ending.complaint then
    IO.eprintln (String.ofList complaint)
  return UInt32.ofNat ending.code
