import XdpEcho.Ring.Basic

/-!
# The producer's view of a ring

A producer remembers which entries it has reserved and up to where slots were free when it last looked. It looks at
the consumer cursor again only when what it remembers is too little. Slots are reserved, written, and then published
together.

The consumer cursor may change at any time, so the operations that may look at it take what they would find there
as an argument.
-/

namespace XdpEcho

/-- What a producer remembers of its ring. -/
structure Producer where
  size : UInt32
  /-- The number of the next entry to be reserved. -/
  next : UInt32
  /-- The number of the first entry whose slot is not known to be free. -/
  limit : UInt32

namespace Producer

variable {α : Type}

def attach (r : Ring α) : Producer where
  size := r.size
  next := r.producer
  limit := r.consumer + r.size

/-- How many slots are free. When fewer than `wanted` are known, it looks at the cursor, which reads `consumer`. -/
def freeEntries (p : Producer) (consumer wanted : UInt32) : UInt32 × Producer :=
  if wanted ≤ p.limit - p.next then (p.limit - p.next, p)
  else (consumer + p.size - p.next, { p with limit := consumer + p.size })

/-- Reserves `count` slots and returns the number of the first entry, or `none` when not all of them are free. -/
def reserve (p : Producer) (consumer count : UInt32) : Option UInt32 × Producer :=
  let (free, p) := p.freeEntries consumer count
  if free < count then (none, p) else (some p.next, { p with next := p.next + count })

/-- Reserves `count` slots, trying again as long as values read from the cursor are given. Returns `none` when the
last of them leaves too few slots. -/
def reserveWithin (p : Producer) (count : UInt32) : List UInt32 → Option UInt32 × Producer
  | [] => (none, p)
  | consumer :: later =>
    match p.reserve consumer count with
    | (some number, p) => (some number, p)
    | (none, p) => p.reserveWithin count later

/-- Publishes entries one at a time until a slot is missing, and returns how many were published. -/
def push (p : Producer) (r : Ring α) : List α → Nat × Producer × Ring α
  | [] => (0, p, r)
  | entry :: rest =>
    match p.reserve r.consumer 1 with
    | (none, p) => (0, p, r)
    | (some number, p) =>
      let (count, p, r) := p.push ((r.write number entry).publish 1) rest
      (count + 1, p, r)

end Producer

end XdpEcho
