import XdpEcho.Kernel.SystemCall

/-!
# System calls of kernel programs and maps

Opening pinned maps, changing their entries, loading the programs and maps of an object file, and attaching a program
to a link.
-/

namespace XdpEcho

namespace Kernel

/-- An open map. -/
structure BpfMap where
  fd : Fd
  shape : MapShape

/-- A program of an object file, not yet loaded. -/
structure BpfProgram where
  name : String
  sectionName : String

/-- An object file whose maps have been made. -/
structure BpfObject where
  programs : List BpfProgram
  maps : List (String × BpfMap)

def socketMapType : UInt32 := 17

def xdpSection : String := "xdp"

def openPin (path : String) : KernelM (Except BpfError BpfMap) := do
  let s ← currentScript
  let opened ← perform (.objectGet path) fun _ => do
    match s.pins.lookup path with
    | none => return .error .noEntry
    | some shape =>
      let fd ← newFd
      return .ok (fd, (⟨fd, shape⟩ : BpfMap))
  match opened with
  | .error _ => return .error .pinned
  | .ok map =>
    match ← perform (.objectInfo map.fd) succeed with
    | .ok () => return .ok map
    | .error _ =>
      close map.fd
      return .error .objectInfo

/-- Keys and values of a socket map have four bytes each. -/
def checkSizes (map : BpfMap) : Except BpfError Unit :=
  if map.shape.keySize ≠ 4 then .error (.keySize map.shape.keySize)
  else if map.shape.valueSize ≠ 4 then .error (.valueSize map.shape.valueSize)
  else .ok ()

/-- A socket map has the type, and then the sizes, of one. -/
def checkSocketMap (map : BpfMap) : Except BpfError Unit :=
  if map.shape.type ≠ socketMapType then .error (.mapType map.shape.type) else checkSizes map

def setEntry (map : BpfMap) (key : UInt32) (value : Fd) : KernelM (Except BpfError Unit) := do
  if map.shape.capacity ≤ key then
    return .error (.mapIndex key map.shape.capacity)
  match ← perform (.mapUpdate map.fd key value) succeed with
  | .ok () => return .ok ()
  | .error _ => return .error .mapUpdate

def closeMaps : List (String × BpfMap) → KernelM Unit
  | [] => return ()
  | (_, map) :: rest => do
    close map.fd
    closeMaps rest

/-- The type of a ring of events, whose capacity is in bytes. -/
def eventRingType : UInt32 := 27

def pageSize : Nat := 4096

/-- What a map of an object file is made as. A ring of events gets a number of whole pages that is a power of two. -/
def effectiveShape (shape : MapShape) : MapShape :=
  if shape.type = eventRingType ∧ shape.capacity ≠ 0 then
    let pages := (shape.capacity.toNat + (pageSize - 1)) / pageSize
    { shape with capacity := UInt32.ofNat (pageSize * pages.nextPowerOfTwo) }
  else shape

/-- Makes the maps of an object file, in order. When one cannot be made, those made before are closed. -/
def createMaps (made : List (String × BpfMap)) : List (String × MapShape) →
    KernelM (Except BpfError (List (String × BpfMap)))
  | [] => return .ok made
  | (name, given) :: rest => do
    let shape := effectiveShape given
    match ← perform (.mapCreate name shape) openFile with
    | .ok fd => createMaps (made ++ [(name, ⟨fd, shape⟩)]) rest
    | .error _ =>
      closeMaps made
      return .error (.mapCreation name)

/-- Reads an object file and makes its maps. -/
def loadObject (path : String) : KernelM (Except BpfError BpfObject) := do
  match (← currentScript).files.lookup path with
  | none => return .error (.unreadableObject path)
  | some (.other _) => return .error .malformedObject
  | some (.object content) =>
    match ← createMaps [] content.maps with
    | .error error => return .error error
    | .ok maps => return .ok ⟨content.programs.map fun (name, sectionName) => ⟨name, sectionName⟩, maps⟩

def programLength : Nat := 2

/-- Asks the kernel to take a program. Its reasons for not taking it may lack the space they need; then it is asked
again, up to so many times, with more space. -/
def loadWithReasons : Nat → KernelM (Except SystemError Fd)
  | 0 => perform (.programLoad programLength) openFile
  | retries + 1 => do
    match ← perform (.programLoad programLength) openFile with
    | .ok fd => return .ok fd
    | .error error => if error = .os .noSpace then loadWithReasons retries else return .error error

/-- Loads a program. When the kernel does not take it, it is asked again for its reasons, and its last answer
counts. -/
def loadProgram : KernelM (Except BpfError Fd) := do
  match ← perform (.programLoad programLength) openFile with
  | .ok fd => return .ok fd
  | .error _ =>
    match ← loadWithReasons 9 with
    | .ok fd => return .ok fd
    | .error _ => return .error .programLoad

/-- Attaches a loaded program to the link of an interface. The mode may ask for any of the hooks of a link. -/
def attachProgram (program : Fd) (interface : String) (mode : AttachMode) : KernelM (Except BpfError Fd) := do
  match ← interfaceIndex interface with
  | .error _ => return .error (.unknownInterface interface)
  | .ok index =>
    match ← perform (.linkCreate program index mode.flags) openFile with
    | .ok fd => return .ok fd
    | .error _ => return .error .linkCreation

end Kernel

end XdpEcho
