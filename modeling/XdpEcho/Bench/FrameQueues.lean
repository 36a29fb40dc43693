import XdpEcho.Bench.RingPair
import XdpEcho.Umem.FramePool

/-!
# The two rings of a umem and their frames

A fill ring and a completion ring with both sides of each, and the pool that frames come from and go back to.
-/

namespace XdpEcho

/-- The rings of a umem, with a pool. -/
structure FrameQueues where
  /-- Frames for the kernel, with the kernel as the consumer. -/
  fill : RingPair UInt64
  /-- Frames from the kernel, with the kernel as the producer. -/
  completion : RingPair UInt64
  pool : FramePool

namespace FrameQueues

/-- Two rings over the same blank memory, and a full pool. -/
def attach (ring : Ring UInt64) (l : Layout) : FrameQueues :=
  ⟨.attach ring, .attach ring, .full l⟩

/-- Asks for free slots of the fill ring. -/
def freeEntries (s : FrameQueues) (wanted : UInt32) : UInt32 × FrameQueues :=
  let (free, fill) := s.fill.freeEntries wanted
  (free, { s with fill })

/-- Reserves slots of the fill ring, or gives `none` where that would have to wait for the kernel. -/
def reserve (s : FrameQueues) (count : UInt32) : Option UInt32 × FrameQueues :=
  let (free, s) := s.freeEntries count
  if free < count then (none, s)
  else
    let (number, producer) := s.fill.producer.reserveWithin count [s.fill.ring.consumer]
    (number, { s with fill := { s.fill with producer } })

/-- Writes a free frame into a slot of the fill ring. -/
def writeFrame (s : FrameQueues) (number : UInt32) : Option UInt64 × FrameQueues :=
  match s.pool.allocate? with
  | none => (none, s)
  | some (addr, pool) => (some addr, { s with pool, fill := s.fill.mapRing (·.write number addr) })

/-- The kernel takes frames off the fill ring. -/
def take (s : FrameQueues) (most : UInt32) : List UInt64 × FrameQueues :=
  let (addrs, consumer, ring) := s.fill.consumer.take s.fill.ring most
  (addrs, { s with fill := { s.fill with consumer, ring } })

/-- The kernel posts frames on the completion ring until it is full. -/
def complete (s : FrameQueues) (addrs : List UInt64) : Nat × FrameQueues :=
  let (count, producer, ring) := s.completion.producer.push s.completion.ring addrs
  (count, { s with completion := { s.completion with producer, ring } })

/-- Takes frames off the completion ring and gives them back to the pool. -/
def poll (s : FrameQueues) (most : UInt32) : List UInt64 × FrameQueues :=
  let (addrs, consumer, ring) := s.completion.consumer.take s.completion.ring most
  (addrs, { s with completion := { s.completion with consumer, ring }, pool := s.pool.releaseAll addrs })

end FrameQueues

end XdpEcho
