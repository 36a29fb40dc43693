import XdpEcho.Socket.Umem

/-!
# Things held while calls are made one by one

A socket, a mapping of one of its rings, and another link, each of which gives way to the next one of its kind.
-/

namespace XdpEcho

/-- What is held at a time. -/
structure Holdings where
  socket : Option Fd
  area : Option RingMapping
  link : Option Kernel.LinkSocket

namespace Holdings

open Kernel

def none : Holdings := ⟨.none, .none, .none⟩

/-- The file that calls for a socket are made with. -/
def fd (h : Holdings) : Fd := h.socket.getD (-1)

def closeSocket (h : Holdings) : KernelM Holdings := do
  h.socket.forM close
  return { h with socket := .none }

def dropArea (h : Holdings) : KernelM Holdings := do
  h.area.forM RingMapping.release
  return { h with area := .none }

def closeLink (h : Holdings) : KernelM Holdings := do
  h.link.forM fun link => close link.fd
  return { h with link := .none }

/-- Makes a socket and closes the one held before. -/
def createSocket (h : Holdings) : KernelM (Except SystemError Fd × Holdings) := do
  match ← Kernel.createSocket with
  | .error error => return (.error error, h)
  | .ok fd => return (.ok fd, { ← h.closeSocket with socket := some fd })

/-- Maps a ring and releases the mapping held before. -/
def mapArea (h : Holdings) (extent : RingExtent) : KernelM (Except SystemError RingMapping × Holdings) := do
  match ← RingMapping.mapExtent h.fd extent with
  | .error error => return (.error error, h)
  | .ok area => return (.ok area, { ← h.dropArea with area := some area })

/-- Opens a link and closes the one held before. -/
def openLink (h : Holdings) (interface : String) : KernelM (Except SystemError LinkSocket × Holdings) := do
  match ← Kernel.openLink interface with
  | .error error => return (.error error, h)
  | .ok link => return (.ok link, { ← h.closeLink with link := some link })

end Holdings

end XdpEcho
