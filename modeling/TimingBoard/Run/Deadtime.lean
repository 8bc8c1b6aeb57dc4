import TimingBoard.Number.Binary64

/-!
# Deadtime of a readout

The hits of one window are read out in packets. The first packet holds 163 hits and each further one
165. Packets are sent in cycles that a number of agents share, one slot each, so the time without
measurement is the number of packets per slot, in cycles.
-/

namespace TimingBoard.Deadtime

/-- The hits that the first packet holds. -/
def firstPacket : Binary64 := .ofNat 163

/-- The hits that each further packet holds. -/
def furtherPacket : Binary64 := .ofNat 165

/-- The packets beyond the first for the expected number of hits. -/
def packets (counts window : Binary64) : Binary64 :=
  (((counts.mul window).sub firstPacket).div furtherPacket).ceil

/-- The time to read out one window, in the unit of the cycle. There is none for a number of slots
that is not positive, nor when the result is not finite. -/
def estimate? (counts window slots cycle : Binary64) : Option Binary64 :=
  if Binary64.zero.lt slots then
    let deadtime := ((packets counts window).div slots).mul cycle
    if deadtime.isFinite then some deadtime else none
  else none

end TimingBoard.Deadtime
