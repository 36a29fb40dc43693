import XdpEcho.Env
import XdpEcho.Kernel.Trace

/-!
# A modelled kernel

A kernel that answers system calls as a script says and writes down every call. It has interfaces, pinned maps and
files; it hands out file numbers, keeps the sizes of the rings, and moves packets through the rings when it is told
to. Calls of each kind are counted from one, and the script speaks of them by kind and number.

* `Kernel.deliver` and `Kernel.complete` are what it does with packets and sent frames.
* `Kernel.perform` makes a call: first what the script has happen just before it, then its failure or its effect.
-/

namespace XdpEcho

/-- A network interface. -/
structure Interface where
  name : String
  index : UInt32
  /-- The content of the file that tells its link address, when there is one. -/
  addressFile : Option Bytes

/-- A file with programs and maps for the kernel. -/
structure ObjectFile where
  /-- The programs: name and section. -/
  programs : List (String × String)
  maps : List (String × MapShape)

/-- What a file holds. -/
inductive FileContent where
  | object (content : ObjectFile)
  | other (content : Bytes)

/-- What the script says of one ring. -/
structure RingScript where
  offsets : RingOffsets
  /-- Both cursors when it is mapped. -/
  start : UInt32
  /-- The flags word when it is mapped. -/
  flags : UInt32

namespace RingScript

/-- A ring that starts at zero, with its parts a cache line apart. -/
def standard : RingScript := ⟨⟨0, 64, 192, 128⟩, 0, 0⟩

end RingScript

/-- How a modelled kernel answers. Pinned maps and files are listed by path. -/
structure Script where
  interfaces : List Interface
  pins : List (String × MapShape)
  files : List (String × FileContent)
  rings : RingRole → RingScript
  statistics : List UInt64
  /-- How many bytes of the counters it reports. -/
  statisticsLength : Nat
  /-- What certain polls return: number, result and events. -/
  polls : List (Nat × Int × Nat)
  /-- What certain sends on a packet socket return: number and result. -/
  sends : List (Nat × UInt64)
  /-- Calls that fail: kind, number (zero for every call) and error. -/
  faults : List (CallKind × Nat × Errno)
  /-- What happens just before certain calls: kind, number (zero for every call) and action. -/
  triggers : List (CallKind × Nat × Action)
  /-- Where that is put which the call with the given number among all calls maps. -/
  address : Nat → UInt64

namespace Script

/-- Addresses far from each other, and none of them null. -/
def standardAddress (number : Nat) : UInt64 :=
  .ofNat (0x10000000000 * (number % 0x10000 + 1))

/-- A kernel with nothing in it that lets every call succeed. -/
def empty : Script where
  interfaces := []
  pins := []
  files := []
  rings _ := .standard
  statistics := []
  statisticsLength := 48
  polls := []
  sends := []
  faults := []
  triggers := []
  address := standardAddress

instance : Inhabited Script := ⟨empty⟩

def setRing (s : Script) (role : RingRole) (f : RingScript → RingScript) : Script :=
  { s with rings := fun r => if r = role then f (s.rings r) else s.rings r }

end Script

/-- A umem that the kernel knows. -/
structure UmemRegistration where
  len : UInt64
  /-- Bytes of a frame. -/
  chunk : UInt32
  /-- Bytes left free at the start of a frame. -/
  headroom : UInt32

/-- The state of a modelled kernel. -/
structure Kernel where
  script : Script
  /-- The kinds of the calls so far, the latest first. -/
  calls : List CallKind
  nextFd : Fd
  ringSizes : RingRole → UInt32
  /-- The umem, once it is known. -/
  umem : Option UmemRegistration
  /-- Frames taken for sending and not yet given back, oldest first. -/
  inFlight : List UInt64
  trace : Array TraceEntry

/-- What is done with a modelled kernel and the memory it shares with its caller. -/
abbrev KernelM := StateM (Env Kernel)

namespace Kernel

def boot (script : Script) : Kernel where
  script := script
  calls := []
  nextFd := 200
  ringSizes _ := 0
  umem := none
  inFlight := []
  trace := #[]

def note (entry : TraceEntry) : KernelM Unit :=
  modify (·.mapWorld fun k => { k with trace := k.trace.push entry })

def emit (event : Event) : KernelM Unit :=
  modify (·.emit event)

def currentScript : KernelM Script := return (← get).world.script

def newFd : KernelM Fd := do
  let fd := (← get).world.nextFd
  modify (·.mapWorld fun k => { k with nextFd := fd + 1 })
  return fd

def close (fd : Fd) : KernelM Unit := note (.closed fd)

/-! ### Packets and frames -/

/-- Receives a packet: takes a frame off the fill ring, copies the packet there behind the headroom, and posts its
descriptor. Returns the address, or `none` when there is no umem, no frame, no slot, or no room in the frame. -/
def deliver (packet : Bytes) : KernelM (Option UInt64) := do
  let env ← get
  let rings := env.rings
  let some umem := env.world.umem | return none
  if rings.fill.pendingCount = 0 ∨ ¬ rings.rx.pendingCount < env.world.ringSizes .rx ∨
      umem.chunk.toNat < packet.length + umem.headroom.toNat then
    return none
  let base := rings.fill.read rings.fill.consumer
  if umem.len.toNat < base.toNat + umem.chunk.toNat then
    return none
  let addr := base + umem.headroom.toUInt64
  let rx := (rings.rx.write rings.rx.producer ⟨addr, UInt32.ofNat packet.length, 0⟩).publish 1
  let fill := { rings.fill with consumer := rings.fill.consumer + 1 }
  modify fun env => { env with umem := env.umem.write addr packet, rings := { env.rings with rx, fill } }
  return some addr

/-- Puts addresses on a completion ring of the given size while it has room. Returns how many, and the ring. -/
def post (size : UInt32) (ring : Ring UInt64) : List UInt64 → Nat × Ring UInt64
  | [] => (0, ring)
  | addr :: rest =>
    if ring.pendingCount < size then
      let (count, ring) := post size ((ring.write ring.producer addr).publish 1) rest
      (count + 1, ring)
    else (0, ring)

/-- Gives back up to `most` of the oldest sent frames, while the completion ring has room. Returns how many. -/
def complete (most : Nat) : KernelM Nat := do
  let env ← get
  let (count, completion) :=
    post (env.world.ringSizes .completion) env.rings.completion (env.world.inFlight.take most)
  modify fun env => { env with
    rings := { env.rings with completion }
    world := { env.world with inFlight := env.world.inFlight.drop count } }
  return count

/-- Takes everything off the transmit ring. The frames wait to be given back. -/
def transmit : KernelM Unit := do
  let env ← get
  let descs := env.rings.tx.pending
  modify fun env => { env with
    rings := { env.rings with tx := { env.rings.tx with consumer := env.rings.tx.producer } }
    world := { env.world with
      inFlight := env.world.inFlight ++ descs.map (·.addr)
      trace := env.world.trace ++ descs.map fun d =>
        TraceEntry.transmitted d ((env.umem.read? d.addr d.len.toNat).getD []) } }

/-- Does what it is told to do between calls. Returns the address of a delivered packet or -1, the number of frames
given back, or zero. -/
def act : Action → KernelM Int
  | .deliver packet => do
    match ← deliver packet with
    | some addr => return addr.toNat
    | none => return -1
  | .complete most => return (← complete most)
  | .flags role flags => do
    modify fun env => { env with rings := env.rings.setFlags flags role }
    return 0
  | .stop => do
    modify ({ · with stop := true })
    return 0
  | .signal source => do
    if ¬ (← get).stop then
      emit source.event
      modify ({ · with stop := true })
    return 0

/-! ### Making a call -/

/-- Counts a call and returns its number among the calls of its kind. -/
def count (kind : CallKind) : KernelM Nat := do
  modify (·.mapWorld fun k => { k with calls := kind :: k.calls })
  return (← get).world.calls.count kind

/-- Whether the script means the call with the given number. -/
def means (kind : CallKind) (number : Nat) (named : CallKind) (chosen : Nat) : Bool :=
  named = kind ∧ (chosen = 0 ∨ chosen = number)

/-- Everything the script has happen just before a call. -/
def trigger (kind : CallKind) (number : Nat) : List (CallKind × Nat × Action) → KernelM Unit
  | [] => return ()
  | (named, chosen, action) :: rest => do
    if means kind number named chosen then
      let result ← act action
      note (.acted kind number action result)
    trigger kind number rest

/-- The failure that the script has for a call. -/
def fault? (s : Script) (kind : CallKind) (number : Nat) : Option Errno :=
  (s.faults.find? fun (named, chosen, _) => means kind number named chosen).map (·.2.2)

/-- Makes a call: lets happen what the script has happen just before it, and then fails as the script says or takes
effect. The effect is given the number of the call, and what it returns as a number is written into the trace. -/
def perform {α : Type} (call : Call) (effect : Nat → KernelM (Except Errno (Int × α))) :
    KernelM (Except SystemError α) := do
  let number ← count call.kind
  let s ← currentScript
  trigger call.kind number s.triggers
  let result ← match fault? s call.kind number with
    | some errno => pure (.error errno)
    | none => effect number
  match result with
  | .ok (shown, a) =>
    note (.called call (.ok shown))
    return .ok a
  | .error errno =>
    note (.called call (.error errno))
    return .error (.os errno)

def succeed (_ : Nat) : KernelM (Except Errno (Int × Unit)) := return .ok (0, ())

def openFile (_ : Nat) : KernelM (Except Errno (Int × Fd)) := do
  let fd ← newFd
  return .ok (fd, fd)

/-- Returns where the call that is being made puts what it maps. -/
def mapped : KernelM (Except Errno (Int × UInt64)) := do
  let k := (← get).world
  let address := k.script.address k.calls.length
  return .ok (address.toNat, address)

end Kernel

end XdpEcho
