import XdpEcho.Config
import XdpEcho.Kernel.SystemCall
import XdpEcho.Socket.Acquisition

/-!
# Registered umems

Frame memory that the kernel knows, with the fill ring and the completion ring mapped, and the socket that it is
registered on. When it is released, the rings go first, then the socket, and the frame memory last, because the
kernel may use the memory as long as the socket is open.
-/

namespace XdpEcho

/-- Which ring is mapped, and how much of it. -/
structure RingExtent where
  role : RingRole
  len : UInt64

/-- A mapped ring. -/
structure RingMapping extends RingExtent where
  address : UInt64

namespace RingMapping

open Kernel

/-- Bytes of the mapping of a ring: everything before the slots, and the slots. -/
def length (role : RingRole) (offsets : RingOffsets) (size : UInt32) : UInt64 :=
  offsets.slots + size.toUInt64 * UInt64.ofNat role.entryBytes

/-- Maps so much of a ring. A mapping at the address zero is taken for none, and is not released. -/
def mapExtent (fd : Fd) (extent : RingExtent) : KernelM (Except SystemError RingMapping) := do
  match ← mapRing fd extent.role extent.len with
  | .error error => return .error error
  | .ok address => return if address = 0 then .error .nullMapping else .ok { extent with address }

def map (fd : Fd) (offsets : RingRole → RingOffsets) (c : Config) (role : RingRole) : Acquisition RingMapping :=
  Acquisition.requiring (.ringMapping role) <|
    mapExtent fd ⟨role, length role (offsets role) (c.ringSize role)⟩

def release (m : RingMapping) : KernelM Unit := unmapRing m.role m.address m.len

end RingMapping

/-- A umem that is registered on a socket. -/
structure UmemBinding where
  fd : Fd
  layout : Layout
  /-- Where the frame memory is mapped. -/
  address : UInt64
  fill : RingMapping
  completion : RingMapping

namespace UmemBinding

open Kernel

/-- Sets the number of slots of a ring as configured. -/
def sizeRing (fd : Fd) (c : Config) (role : RingRole) : Acquisition Unit :=
  Acquisition.requiring (.ring role) (setRingSize fd role (c.ringSize role))

/-- Makes frame memory known on a new socket and maps its two rings. -/
def create (l : Layout) (c : Config) : Acquisition UmemBinding := do
  let address ← Acquisition.requiring .umemMemory (mapMemory l)
  Acquisition.guarding (unmapMemory l address) do
    let fd ← Acquisition.requiring .socket createSocket
    Acquisition.guarding (close fd) do
      Acquisition.requiring .umemRegistration (registerUmem fd ⟨l.size, l.frameSize, c.headroom⟩)
      sizeRing fd c .fill
      sizeRing fd c .completion
      let offsets ← Acquisition.requiring .ringOffsets (ringOffsets fd)
      let fill ← RingMapping.map fd offsets c .fill
      let completion ← Acquisition.guarding fill.release (RingMapping.map fd offsets c .completion)
      emit (.umemRegistered l.frameCount l.frameSize fd)
      return ⟨fd, l, address, fill, completion⟩

/-- Releases the rings, the socket and the frame memory. -/
def release (u : UmemBinding) : KernelM Unit := do
  u.fill.release
  u.completion.release
  close u.fd
  unmapMemory u.layout u.address

/-- Releases the umem at the end of its use. -/
def teardown (u : UmemBinding) : KernelM Unit := do
  emit (.umemDeleted u.fd)
  u.release

end UmemBinding

end XdpEcho
