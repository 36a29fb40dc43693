import XdpEcho.Bytes
import XdpEcho.Umem.Layout

/-!
# Frame memory

The bytes of all frames in one piece. Reading and writing name a range of addresses; a range that does not lie
inside the memory, also one whose end is above every address, can be neither read nor written.
-/

namespace XdpEcho

/-- The memory of a umem. -/
structure Area where
  /-- The bytes, the one at address zero first. -/
  bytes : ByteArray

namespace Area

def empty : Area := ⟨ByteArray.empty⟩

instance : Inhabited Area := ⟨empty⟩

/-- A thousand zeros and more, by doubling: `2 ^ k` zero bytes. -/
def zeroBlock : Nat → ByteArray
  | 0 => ⟨#[0]⟩
  | k + 1 =>
    let block := zeroBlock k
    block ++ block

/-- `n` zero bytes, as `n / 2048` blocks of 2048 and the rest one by one. -/
def zeroBytes (n : Nat) : ByteArray :=
  let block := zeroBlock 11
  let blocks := (n / 2048).fold (fun _ _ (acc : ByteArray) => acc ++ block) (ByteArray.emptyWithCapacity n)
  (n % 2048).fold (fun _ _ (acc : ByteArray) => acc.push 0) blocks

/-- Zeroed memory for the frames of a layout. -/
def zeroed (l : Layout) : Area :=
  ⟨zeroBytes l.size.toNat⟩

def size (a : Area) : Nat := a.bytes.size

/-- The `len` bytes from `addr` on lie inside the memory. -/
def Contains (a : Area) (addr : UInt64) (len : Nat) : Prop :=
  addr.toNat + len ≤ a.size

instance (a : Area) (addr : UInt64) (len : Nat) : Decidable (a.Contains addr len) :=
  inferInstanceAs (Decidable (_ ≤ _))

/-- The `len` bytes from `addr` on, or `none` when they are not all inside. -/
def read? (a : Area) (addr : UInt64) (len : Nat) : Option Bytes :=
  if a.Contains addr len then some (a.bytes.extract addr.toNat (addr.toNat + len)).data.toList else none

def store (bytes : ByteArray) (position : Nat) : Bytes → ByteArray
  | [] => bytes
  | b :: rest => store (bytes.set! position b) (position + 1) rest

/-- Writes bytes from `addr` on, or returns `none` when they do not all fit inside. -/
def write? (a : Area) (addr : UInt64) (data : Bytes) : Option Area :=
  if a.Contains addr data.length then some ⟨store a.bytes addr.toNat data⟩ else none

/-- Writes bytes from `addr` on, and changes nothing when they do not all fit inside. -/
def write (a : Area) (addr : UInt64) (data : Bytes) : Area :=
  (a.write? addr data).getD a

end Area

end XdpEcho
