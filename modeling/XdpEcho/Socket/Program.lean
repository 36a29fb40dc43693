import XdpEcho.Kernel.Bpf
import XdpEcho.Socket.Acquisition

/-!
# Redirect programs

The program that a link runs on every received packet, and that hands packets to the sockets of a map. It stays
attached until it is detached, which is to happen after the sockets in its map are gone.

* `RedirectProgram.load` loads a program from an object file and attaches it to a link.
* `RedirectProgram.takeSocketMap` takes one of its maps out of it.
-/

namespace XdpEcho

/-- A redirect program that is attached to a link. -/
structure RedirectProgram where
  interface : String
  /-- The maps that have not been taken. -/
  maps : List (String × Kernel.BpfMap)
  program : Fd
  link : Fd

namespace RedirectProgram

open Kernel

/-- Loads the program of the given name out of an object file. -/
def loadNamed (object : BpfObject) (name : String) : Acquisition Fd := do
  let some found := object.programs.find? (·.name = name)
    | throw (.program (.missing name))
  if found.sectionName ≠ xdpSection then
    throw (.program (.notXdp name .programType))
  Acquisition.reporting (fun error => .program (.loading name error)) loadProgram

/-- Attaches a loaded program to a link. When the kernel may pick the hook and its pick is refused, the generic hook
is tried. -/
def attach (program : Fd) (interface : String) (mode : AttachMode) : Acquisition Fd := do
  let report (error : BpfError) : SocketError := .program (.attaching interface error)
  match ← attachProgram program interface mode with
  | .ok link => return link
  | .error error =>
    if mode = .auto then
      emit (.attachFallback interface error)
      Acquisition.reporting report (attachProgram program interface .generic)
    else throw (report error)

/-- Loads a program from an object file and attaches it to a link. -/
def load (path name interface : String) (mode : AttachMode) : Acquisition RedirectProgram := do
  let object ← Acquisition.reporting (fun error => .program (.object path error)) (loadObject path)
  let program ← Acquisition.guarding (closeMaps object.maps) (loadNamed object name)
  let link ← Acquisition.guarding (do closeMaps object.maps; close program) (attach program interface mode)
  emit (.programAttached interface name mode)
  return ⟨interface, object.maps, program, link⟩

/-- Takes the socket map of the given name out of the program. A map of the name is gone from the program even if it
is no socket map. -/
def takeSocketMap (p : RedirectProgram) (name : String) : KernelM (Except SocketError BpfMap × RedirectProgram) := do
  match p.maps.lookup name with
  | none => return (.error (.socketMap (.missing name)), p)
  | some map =>
    let rest := { p with maps := p.maps.filter fun entry => entry.1 ≠ name }
    match checkSocketMap map with
    | .ok () => return (.ok map, rest)
    | .error error =>
      close map.fd
      return (.error (.socketMap (.mismatch name error)), rest)

/-- Detaches the program and lets go of it and of the maps that have not been taken. -/
def detach (p : RedirectProgram) : KernelM Unit := do
  emit (.programDetached p.interface)
  closeMaps p.maps
  close p.link
  close p.program

end RedirectProgram

end XdpEcho
