import XdpEcho.Duration
import XdpEcho.Stats

/-!
# Throughput

What happened between two looks at the counters of a socket, per second.
-/

namespace XdpEcho

/-- The counters at a moment, the moment being the time since the clock was started. -/
structure Snapshot where
  stats : Stats
  moment : Duration

/-- Rates over a period. -/
structure Rates where
  /-- The length of the period in seconds. -/
  period : Float
  /-- Packets received per second. -/
  rxPackets : Float
  /-- Megabits received per second. -/
  rxMegabits : Float
  /-- Packets sent per second. -/
  txPackets : Float
  /-- Megabits sent per second. -/
  txMegabits : Float

namespace Duration

/-- The span in seconds, as the sum of its whole seconds and the rest. -/
def toSeconds (d : Duration) : Float :=
  Float.ofNat d.seconds + Float.ofNat d.subsecond / 1000000000.0

end Duration

namespace Rates

/-- How far a counter has come, zero when it has not. -/
def growth (before after : UInt64) : Float :=
  if before < after then (after - before).toFloat else 0.0

/-- The rates between two looks. A period of no length has no rates. -/
def between (earlier later : Snapshot) : Rates :=
  let period := (Duration.between earlier.moment later.moment).toSeconds
  if period ≤ 0.0 then ⟨0.0, 0.0, 0.0, 0.0, 0.0⟩
  else
    let packets (before after : UInt64) := growth before after / period
    let megabits (before after : UInt64) := growth before after * 8.0 / period / 1000000.0
    { period
      rxPackets := packets earlier.stats.rxPackets later.stats.rxPackets
      rxMegabits := megabits earlier.stats.rxBytes later.stats.rxBytes
      txPackets := packets earlier.stats.txPackets later.stats.txPackets
      txMegabits := megabits earlier.stats.txBytes later.stats.txBytes }

end Rates

end XdpEcho
