/-!
# Traffic counters

Counters of the whole controller. Totals of bytes have 64 bits and wrap around. What goes up by one
at a time never gets that far, and is a natural number, here and wherever else something is counted
or numbered: the frames of a connection, the generations of requests, the numbers of listeners and
contributors.
-/

namespace Southbound

structure Counters where
  packetIns : Nat := 0
  packetInBytes : UInt64 := 0
  packetOuts : Nat := 0
  packetOutBytes : UInt64 := 0
  received : Nat := 0
  sent : Nat := 0
  droppedEvents : Nat := 0
  parseErrors : Nat := 0
deriving DecidableEq

namespace Counters

def countReceived (c : Counters) : Counters := { c with received := c.received + 1 }

def countSent (c : Counters) : Counters := { c with sent := c.sent + 1 }

def countDrop (c : Counters) : Counters := { c with droppedEvents := c.droppedEvents + 1 }

def countParseError (c : Counters) : Counters := { c with parseErrors := c.parseErrors + 1 }

/-- A packet of `bytes` bytes came in. -/
def countPacketIn (c : Counters) (bytes : Nat) : Counters :=
  { c with packetIns := c.packetIns + 1, packetInBytes := c.packetInBytes + UInt64.ofNat bytes }

/-- A packet of `bytes` bytes was sent out. -/
def countPacketOut (c : Counters) (bytes : Nat) : Counters :=
  { c with packetOuts := c.packetOuts + 1, packetOutBytes := c.packetOutBytes + UInt64.ofNat bytes }

end Counters

end Southbound
