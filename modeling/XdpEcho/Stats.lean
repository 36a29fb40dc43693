/-!
# Packet counters

Five counters of one socket, each wrapping at 64 bits. Only the engine thread counts.
-/

namespace XdpEcho

/-- What a socket has handled so far. -/
structure Stats where
  rxPackets : UInt64
  rxBytes : UInt64
  txPackets : UInt64
  txBytes : UInt64
  /-- Frames given back to the pool without being sent. -/
  dropped : UInt64
  deriving DecidableEq

namespace Stats

def zero : Stats := ⟨0, 0, 0, 0, 0⟩

def recordRx (s : Stats) (packets bytes : UInt64) : Stats :=
  { s with rxPackets := s.rxPackets + packets, rxBytes := s.rxBytes + bytes }

def recordTx (s : Stats) (packets bytes : UInt64) : Stats :=
  { s with txPackets := s.txPackets + packets, txBytes := s.txBytes + bytes }

def recordDropped (s : Stats) (packets : UInt64) : Stats :=
  { s with dropped := s.dropped + packets }

end Stats

/-- What the kernel counts for one socket. -/
structure KernelStatistics where
  rxDropped : UInt64
  rxInvalidDescs : UInt64
  txInvalidDescs : UInt64
  /-- Packets dropped because the receive ring was full. -/
  rxRingFull : UInt64
  /-- Packets dropped because the fill ring was empty. -/
  rxFillRingEmptyDescs : UInt64
  /-- Transmissions that found the transmit ring empty. -/
  txRingEmptyDescs : UInt64
  deriving DecidableEq

namespace KernelStatistics

def entries (k : KernelStatistics) : List (String × UInt64) :=
  [("rx_dropped", k.rxDropped), ("rx_invalid_descs", k.rxInvalidDescs), ("tx_invalid_descs", k.txInvalidDescs),
    ("rx_ring_full", k.rxRingFull), ("rx_fill_ring_empty_descs", k.rxFillRingEmptyDescs),
    ("tx_ring_empty_descs", k.txRingEmptyDescs)]

/-- The counters given by a list, missing ones being zero. -/
def ofList (counters : List UInt64) : KernelStatistics :=
  let counter (i : Nat) := counters.getD i 0
  ⟨counter 0, counter 1, counter 2, counter 3, counter 4, counter 5⟩

end KernelStatistics

end XdpEcho
