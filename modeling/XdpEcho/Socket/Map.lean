import XdpEcho.Kernel.Bpf
import XdpEcho.Socket.Acquisition

/-!
# Socket maps

Where the redirect program looks up the socket of a queue. An entry goes away by itself when its socket is closed.

* `SocketMap.openPinned` opens the map that another program has pinned.
* `SocketMap.register` enters a socket for its queue.
-/

namespace XdpEcho

/-- A map from queues to sockets. -/
inductive SocketMap where
  /-- An open map of the kernel. -/
  | opened (map : Kernel.BpfMap)
  /-- A list outside the kernel. -/
  | listed
  | refusing (reason : String)

namespace SocketMap

open Kernel

/-- Where the redirect program of an interface pins its map. -/
def pinnedPath (interface map : String) : String :=
  s!"/sys/fs/bpf/{interface}/{map}"

/-- Opens the socket map that is pinned at a path. -/
def openPinned (path : String) : Acquisition BpfMap := do
  let map ← Acquisition.reporting (fun error => .socketMap (.opening path error)) (openPin path)
  Acquisition.guarding (close map.fd) <|
    Acquisition.reporting (fun error => .socketMap (.pinnedMismatch path error)) (return checkSizes map)
  return map

def register (map : SocketMap) (queue : UInt32) (fd : Fd) : Acquisition Unit :=
  match map with
  | .refusing reason => throw (.socketMap (.described reason))
  | .listed => note (.entered queue fd)
  | .opened map => do
    note (.entered queue fd)
    Acquisition.reporting (fun error => .socketMap (.registration queue error)) (setEntry map queue fd)
    emit (.socketRegistered queue fd)

end SocketMap

end XdpEcho
