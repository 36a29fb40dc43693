import XdpEcho.Ring.Basic

/-!
# The consumer's view of a ring

A consumer remembers which entries it has released and up to where entries were published when it last looked. It
looks at the producer cursor again only when nothing is left of what it remembers. Entries are peeked, read, and
then released together.

The producer cursor may change at any time, so the operation that may look at it takes what it would find there as
an argument.
-/

namespace XdpEcho

/-- What a consumer remembers of its ring. -/
structure Consumer where
  size : UInt32
  /-- The number of the next entry to be released. -/
  next : UInt32
  /-- The number of the first entry that is not known to be published. -/
  limit : UInt32

namespace Consumer

variable {α : Type}

def attach (r : Ring α) : Consumer where
  size := r.size
  next := r.consumer
  limit := r.producer

/-- How many entries can be read, at most `count`. When none is known, it looks at the cursor, which reads
`producer`. -/
def peek (c : Consumer) (producer count : UInt32) : UInt32 × Consumer :=
  if c.limit - c.next = 0 then (min (producer - c.next) count, { c with limit := producer })
  else (min (c.limit - c.next) count, c)

def release (c : Consumer) (r : Ring α) (count : UInt32) : Consumer × Ring α :=
  ({ c with next := c.next + count }, { r with consumer := c.next + count })

/-- Peeks at most `count` entries, reads them and releases them. -/
def take [Inhabited α] (c : Consumer) (r : Ring α) (count : UInt32) : List α × Consumer × Ring α :=
  let (available, c) := c.peek r.producer count
  if available = 0 then ([], c, r)
  else
    let entries := r.readFrom c.next available.toNat
    let (c, r) := c.release r available
    (entries, c, r)

end Consumer

end XdpEcho
