import XdpEcho.Kernel.Basic
import XdpEcho.Text.Blank
import XdpEcho.Text.MacAddress
import XdpEcho.Text.Quoted

/-!
# System calls of packet sockets

The calls that sockets with shared rings and raw link sockets are made of, each as the modelled kernel answers it.
Some failures of the calls that move packets are no failures for their callers: a busy or a draining ring is looked
at again at the next opportunity.
-/

namespace XdpEcho

namespace Kernel

/-! ### Interfaces -/

def interface? (s : Script) (name : String) : Option Interface :=
  s.interfaces.find? (·.name = name)

def interfaceIndex (name : String) : KernelM (Except SystemError UInt32) := do
  if name.contains '\x00' then
    return .error .interfaceName
  let s ← currentScript
  perform (.interfaceIndex name) fun _ => return match interface? s name with
    | some i => .ok (i.index.toNat, i.index)
    | none => .error .noDevice

/-- The link address that a file tells, white space at its ends apart. -/
def readLinkAddress (content : Bytes) : Except SystemError MacAddress :=
  match String.fromUTF8? (ByteArray.mk content.toArray) with
  | none => .error .notUtf8
  | some text =>
    match MacAddress.parse? (Text.trim text.toList) with
    | some address => .ok address
    | none => .error (.badMacAddress (Text.quoted text))

def linkAddress (name : String) : KernelM (Except SystemError MacAddress) := do
  if name.contains '\x00' then
    return .error .pathName
  return match (interface? (← currentScript) name).bind (·.addressFile) with
  | some content => readLinkAddress content
  | none => .error (.os .noEntry)

/-- Lifts the limit on memory that the kernel may pin. -/
def raiseMemoryLimit : KernelM (Except SystemError Unit) :=
  perform (.memoryLimit 0xffffffffffffffff 0xffffffffffffffff) succeed

/-! ### Sockets with shared rings -/

/-- Maps frame memory. Returns its address. -/
def mapMemory (l : Layout) : KernelM (Except SystemError UInt64) :=
  perform (.memory l.size) fun _ => do
    modify fun env => { env with umem := .zeroed l }
    mapped

def unmapMemory (l : Layout) (address : UInt64) : KernelM Unit := do
  note (.memoryUnmapped address l.size (← get).world.umem.isSome)

def createSocket : KernelM (Except SystemError Fd) := perform .socket openFile

/-- Binds a socket to a queue of an interface. -/
def bindSocket (fd : Fd) (index queue : UInt32) (flags : UInt16) : KernelM (Except SystemError Unit) :=
  perform (.bind fd flags index queue) succeed

/-- Makes the frame memory of a socket known. -/
def registerUmem (fd : Fd) (umem : UmemRegistration) : KernelM (Except SystemError Unit) :=
  perform (.umemRegistration fd umem.len umem.chunk umem.headroom) fun _ => do
    modify (·.mapWorld fun k => { k with umem := some umem })
    return .ok (0, ())

/-- Sets the number of slots of a ring. -/
def setRingSize (fd : Fd) (role : RingRole) (size : UInt32) : KernelM (Except SystemError Unit) :=
  perform (.ringSize fd role size) fun _ => do
    modify (·.mapWorld fun k => { k with ringSizes := fun r => if r = role then size else k.ringSizes r })
    return .ok (0, ())

/-- Where the parts of the rings lie in their mappings. -/
def ringOffsets (fd : Fd) : KernelM (Except SystemError (RingRole → RingOffsets)) := do
  let s ← currentScript
  perform (.ringOffsets fd) fun _ => return .ok (0, fun role => (s.rings role).offsets)

/-- Counters of which only the first `len` bytes are reported. Each takes eight bytes, low byte first. -/
def truncated : Nat → List UInt64 → List UInt64
  | _, [] => []
  | len, counter :: rest => UInt64.ofNat (counter.toNat % Nat.pow 256 (min len 8)) :: truncated (len - 8) rest

def statistics (fd : Fd) : KernelM (Except SystemError KernelStatistics) := do
  let s ← currentScript
  perform (.statistics fd) fun _ =>
    return .ok (0, .ofList (truncated (min s.statisticsLength 48) (s.statistics.take 6)))

/-- Ring memory as it is when a mapping of the given length is made: as many slots as fit behind the cursors. -/
def mappedRing {α : Type} [Inhabited α] (s : RingScript) (entryBytes : Nat) (len : UInt64) : Ring α where
  slots := Array.replicate ((len.toNat - s.offsets.slots.toNat) / entryBytes) default
  producer := s.start
  consumer := s.start
  flags := some s.flags

/-- Maps a ring. Returns its address. -/
def mapRing (fd : Fd) (role : RingRole) (len : UInt64) : KernelM (Except SystemError UInt64) := do
  let s := (← currentScript).rings role
  perform (.ringMapping fd role len) fun _ => do
    modify fun env =>
      let rings := env.rings
      { env with rings := match role with
        | .rx => { rings with rx := mappedRing s role.entryBytes len }
        | .tx => { rings with tx := mappedRing s role.entryBytes len }
        | .fill => { rings with fill := mappedRing s role.entryBytes len }
        | .completion => { rings with completion := mappedRing s role.entryBytes len } }
    mapped

def unmapRing (role : RingRole) (address len : UInt64) : KernelM Unit := note (.ringUnmapped role address len)

/-- Failures of a kick that mean that the ring is busy or still draining. -/
def toleratedByKick : List Errno := [.tryAgain, .busy, .noBuffers, .networkDown]

/-- Has the kernel look at the transmit ring, of which it then sends everything. -/
def kickTx (fd : Fd) : KernelM (Except SystemError Unit) := do
  match ← perform (.sendto fd) succeed with
  | .ok () =>
    transmit
    return .ok ()
  | .error (.os errno) => return if errno ∈ toleratedByKick then .ok () else .error (.os errno)
  | .error error => return .error error

/-- Has the kernel look at the fill ring. -/
def wakeupRx (fd : Fd) : KernelM (Except SystemError Unit) := do
  match ← perform (.recvfrom fd) succeed with
  | .ok () => return .ok ()
  | .error error => return if error.kind = .wouldBlock then .ok () else .error error

/-- The event bit of a socket that can be read. -/
def readable : Nat := 1

/-- What a poll returns when the script says nothing of it: at once whether packets have been received. -/
def pollNow (env : Env Kernel) : Int × Nat :=
  if env.rings.rx.pendingCount = 0 then (0, 0) else (1, readable)

/-- Waits for received packets, for so many milliseconds at most. A signal ends the wait. -/
def waitRx (fd : Fd) (timeout : Int) : KernelM (Except SystemError Bool) := do
  let s ← currentScript
  let result ← perform (.poll fd timeout) fun number => do
    let (ready, events) := (s.polls.lookup number).getD (pollNow (← get))
    return .ok (ready, decide (0 < ready) && events &&& readable != 0)
  match result with
  | .error error => return if error.kind = .interrupted then .ok false else .error error
  | .ok ready => return .ok ready

/-! ### Raw link sockets -/

/-- A socket that puts whole frames on a link. -/
structure LinkSocket where
  fd : Fd
  interface : String
  index : UInt32
  address : MacAddress

/-- Opens a link by the name of its interface. -/
def openLink (interface : String) : KernelM (Except SystemError LinkSocket) := do
  match ← interfaceIndex interface with
  | .error error => return .error error
  | .ok index =>
    match ← linkAddress interface with
    | .error error => return .error error
    | .ok address =>
      match ← perform .packetSocket openFile with
      | .error error => return .error error
      | .ok fd => return .ok { fd, interface, index, address }

/-- Puts a frame on a link. Returns how many bytes the kernel says it has taken. -/
def sendFrame (link : LinkSocket) (frame : Bytes) : KernelM (Except SystemError UInt64) := do
  let s ← currentScript
  perform (.packetSend link.fd link.index link.address frame) fun number => do
    let sent := (s.sends.lookup number).getD (UInt64.ofNat frame.length)
    return .ok (sent.toNat, sent)

end Kernel

end XdpEcho
