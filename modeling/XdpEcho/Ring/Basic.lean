/-!
# Ring memory

A ring is an array of slots that two sides share. One side, the producer, writes entries and advances the producer
cursor; the other, the consumer, reads them and advances the consumer cursor. Cursors count entries and run freely
through all 32-bit values; the slot of an entry is its number modulo the size, which is a power of two.

* `Ring.pending` lists what is published and not yet released, oldest first.
* `Ring.create` refuses sizes that are not powers of two.
-/

namespace XdpEcho

/-- An entry of a receive or transmit ring: where a packet lies in the umem. -/
structure Descriptor where
  /-- The address of the first byte. -/
  addr : UInt64
  len : UInt32
  /-- Flags; this library sends zero. -/
  options : UInt32
  deriving DecidableEq, Inhabited

/-- What a ring of a socket is for. -/
inductive RingRole where
  /-- Received packets, from the kernel. -/
  | rx
  /-- Packets to send, to the kernel. -/
  | tx
  /-- Empty frames, to the kernel. -/
  | fill
  /-- Frames that have been sent, from the kernel. -/
  | completion
  deriving DecidableEq

namespace RingRole

def all : List RingRole := [rx, tx, fill, completion]

def name : RingRole → String
  | rx => "rx"
  | tx => "tx"
  | fill => "fill"
  | completion => "comp"

def ofName? (name : String) : Option RingRole :=
  all.find? (·.name = name)

/-- Bytes of one entry of the ring: a descriptor or an address. -/
def entryBytes : RingRole → Nat
  | rx => 16
  | tx => 16
  | fill => 8
  | completion => 8

end RingRole

/-- Memory shared by the two sides of a ring. -/
structure Ring (α : Type) where
  slots : Array α
  /-- The number of the next entry to be published. -/
  producer : UInt32
  /-- The number of the next entry to be released. -/
  consumer : UInt32
  /-- The flags word, when the memory has one. -/
  flags : Option UInt32

/-- A number of slots that is not a power of two. -/
structure RingSizeError where
  size : UInt32
  deriving DecidableEq

namespace RingSizeError

def message (_ : RingSizeError) : String :=
  "ring size must be a power of two"

end RingSizeError

namespace Ring

variable {α : Type}

def empty : Ring α where
  slots := #[]
  producer := 0
  consumer := 0
  flags := none

instance : Inhabited (Ring α) := ⟨empty⟩

/-- Blank ring memory with both cursors at `start` and a cleared flags word. -/
def blank [Inhabited α] (size start : UInt32) : Ring α where
  slots := Array.replicate size.toNat default
  producer := start
  consumer := start
  flags := some 0

/-- Blank ring memory, for a size that is a power of two. -/
def create [Inhabited α] (size start : UInt32) : Except RingSizeError (Ring α) :=
  if size.toNat.isPowerOfTwo then .ok (blank size start) else .error ⟨size⟩

def size (r : Ring α) : UInt32 := UInt32.ofNat r.slots.size

/-- The slot of the entry with the given number. -/
def slot (r : Ring α) (number : UInt32) : Nat :=
  (number &&& (r.size - 1)).toNat

/-- The content of the slot of the entry with the given number. -/
def read [Inhabited α] (r : Ring α) (number : UInt32) : α :=
  r.slots.getD (r.slot number) default

/-- Writes the slot of the entry with the given number. -/
def write (r : Ring α) (number : UInt32) (entry : α) : Ring α :=
  { r with slots := r.slots.setIfInBounds (r.slot number) entry }

/-- Writes consecutive entries, the first under the given number. -/
def writeFrom (r : Ring α) (number : UInt32) : List α → Ring α
  | [] => r
  | entry :: rest => (r.write number entry).writeFrom (number + 1) rest

def readFrom [Inhabited α] (r : Ring α) (number : UInt32) : Nat → List α
  | 0 => []
  | count + 1 => r.read number :: r.readFrom (number + 1) count

/-- Makes the next `count` entries visible to the consumer. -/
def publish (r : Ring α) (count : UInt32) : Ring α :=
  { r with producer := r.producer + count }

/-- How many entries are published and not yet released. -/
def pendingCount (r : Ring α) : UInt32 := r.producer - r.consumer

/-- The entries that are published and not yet released, oldest first. -/
def pending [Inhabited α] (r : Ring α) : List α :=
  r.readFrom r.consumer r.pendingCount.toNat

/-- The bit of the flags word by which one side asks to be woken. -/
def wakeupBit : UInt32 := 1

/-- Whether the other side has asked to be woken. Memory without a flags word never asks. -/
def needsWakeup (r : Ring α) : Bool :=
  match r.flags with
  | some flags => flags &&& wakeupBit != 0
  | none => false

/-- Sets the flags word, when the memory has one. -/
def setFlags (r : Ring α) (flags : UInt32) : Ring α :=
  { r with flags := r.flags.map fun _ => flags }

end Ring

end XdpEcho
