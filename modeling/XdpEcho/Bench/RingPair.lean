import XdpEcho.Ring.Consumer
import XdpEcho.Ring.Producer

/-!
# Both sides of one ring

A ring with a view of each side. The sides do what they are told to do, also what a careful program would not.
-/

namespace XdpEcho

/-- A ring and its two sides. -/
structure RingPair (α : Type) where
  ring : Ring α
  producer : Producer
  consumer : Consumer

namespace RingPair

variable {α : Type}

def attach (ring : Ring α) : RingPair α := ⟨ring, .attach ring, .attach ring⟩

def freeEntries (s : RingPair α) (wanted : UInt32) : UInt32 × RingPair α :=
  let (free, producer) := s.producer.freeEntries s.ring.consumer wanted
  (free, { s with producer })

def reserve (s : RingPair α) (count : UInt32) : Option UInt32 × RingPair α :=
  let (number, producer) := s.producer.reserve s.ring.consumer count
  (number, { s with producer })

def peek (s : RingPair α) (count : UInt32) : UInt32 × RingPair α :=
  let (available, consumer) := s.consumer.peek s.ring.producer count
  (available, { s with consumer })

def release (s : RingPair α) (count : UInt32) : RingPair α :=
  let (consumer, ring) := s.consumer.release s.ring count
  { s with consumer, ring }

def mapRing (f : Ring α → Ring α) (s : RingPair α) : RingPair α :=
  { s with ring := f s.ring }

end RingPair

end XdpEcho
