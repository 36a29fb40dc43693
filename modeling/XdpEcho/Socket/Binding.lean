import XdpEcho.Endpoint
import XdpEcho.Socket.Map
import XdpEcho.Socket.Umem

/-!
# Bound sockets

A socket that receives the packets of one queue of an interface: a registered umem, the mapped receive and transmit
rings, and an entry in a socket map.

* `SocketBinding.build` checks the configuration and makes everything.
* `SocketBinding.endpoint` is what an engine sees of it.
* `SocketBinding.teardown` takes it apart again and leaves the umem.
-/

namespace XdpEcho

/-- A socket bound to a queue. -/
structure SocketBinding where
  /-- The umem it was built on, which holds the socket. -/
  umem : UmemBinding
  rx : RingMapping
  tx : RingMapping
  interface : String
  index : UInt32
  queue : UInt32
  needWakeup : Bool

namespace SocketBinding

open Kernel

/-- The flag of a socket whose rings ask for wake-ups. -/
def needWakeupFlag : UInt16 := 8

/-- The flags that a socket is bound with. -/
def bindFlags (c : Config) : UInt16 :=
  if c.needWakeup then c.bindFlags ||| needWakeupFlag else c.bindFlags

/-- How the refusal to bind a socket is reported. -/
def bindError (interface : String) (queue : UInt32) (error : SystemError) : SocketError :=
  if error.kind = .permissionDenied then .permissionDenied else .bind interface queue error

/-- Maps the receive and transmit rings of the socket of a umem and binds it to a queue. The umem stays with the
caller when this fails. -/
def bind (umem : UmemBinding) (map : SocketMap) (interface : String) (queue : UInt32) (c : Config) :
    Acquisition SocketBinding := do
  let fd := umem.fd
  let index ← Acquisition.reporting (fun _ => .interfaceNotFound interface) (interfaceIndex interface)
  UmemBinding.sizeRing fd c .rx
  UmemBinding.sizeRing fd c .tx
  let offsets ← Acquisition.requiring .ringOffsets (ringOffsets fd)
  let rx ← RingMapping.map fd offsets c .rx
  Acquisition.guarding rx.release do
    let tx ← RingMapping.map fd offsets c .tx
    Acquisition.guarding tx.release do
      Acquisition.reporting (bindError interface queue) (bindSocket fd index queue (bindFlags c))
      map.register queue fd
      emit (.socketBound interface index queue fd (bindFlags c))
      return { umem, rx, tx, interface, index, queue, needWakeup := c.needWakeup }

/-- Checks the configuration, makes a umem, and binds its socket to a queue. -/
def build (map : SocketMap) (interface : String) (queue : UInt32) (c : Config) : Acquisition SocketBinding := do
  match c.validate with
  | .error error => throw (.configuration error)
  | .ok () =>
    match Layout.ofSizes c.frameSize c.frameCount with
    | .error error => throw (.configuration (.layout error))
    | .ok layout =>
      let umem ← UmemBinding.create layout c
      Acquisition.guarding umem.release (bind umem map interface queue c)

def fd (s : SocketBinding) : Fd := s.umem.fd

def statistics (s : SocketBinding) : Acquisition KernelStatistics :=
  Acquisition.requiring .statistics (Kernel.statistics s.fd)

def release (s : SocketBinding) : KernelM Unit := do
  s.rx.release
  s.tx.release
  s.umem.release

/-- Releases the receive and transmit rings at the end of their use, and leaves the umem. -/
def teardown (s : SocketBinding) : KernelM UmemBinding := do
  emit (.socketDeleted s.interface s.queue)
  s.rx.release
  s.tx.release
  return s.umem

/-- The calls that an engine makes to the socket. A timeout longer than can be asked for is cut. -/
def endpoint (s : SocketBinding) : Endpoint Kernel where
  needWakeup := s.needWakeup
  waitReadable timeout := waitRx s.fd (min timeout.milliseconds Config.maxTimeout : Nat)
  kickTx := Kernel.kickTx s.fd
  wakeupRx := Kernel.wakeupRx s.fd

end SocketBinding

end XdpEcho
