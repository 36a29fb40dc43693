import XdpEcho.Event
import XdpEcho.Ring.Basic

/-!
# System calls and their trace

The system calls that sockets, maps and programs make, and the record of them. Every call has a kind, by which a
script of a modelled kernel speaks of it. A trace is a list of entries; most entries have a line of text.

* `Call.kind` and `CallKind.name` name a call.
* `TraceEntry.lines` is the text of an entry.
-/

namespace XdpEcho

/-- Where the parts of a ring lie in its mapping, in bytes from the start. -/
structure RingOffsets where
  producer : UInt64
  consumer : UInt64
  slots : UInt64
  flags : UInt64
  deriving DecidableEq

/-- What a kernel map is made as. -/
structure MapShape where
  type : UInt32
  keySize : UInt32
  valueSize : UInt32
  capacity : UInt32
  deriving DecidableEq

/-- The kinds of system calls. -/
inductive CallKind where
  | socket
  | packetSocket
  | bind
  | umemRegistration
  | ringSize (role : RingRole)
  | ringOffsets
  | statistics
  | ringMapping (role : RingRole)
  | poll
  | sendto
  | recvfrom
  | packetSend
  | memoryLimit
  | interfaceIndex
  | objectGet
  | objectInfo
  | mapCreate
  | mapUpdate
  | programLoad
  | linkCreate
  | memory
  deriving DecidableEq

namespace CallKind

/-- The name of the kind in scripts and traces. -/
def name : CallKind → String
  | socket => "socket"
  | packetSocket => "packet_socket"
  | bind => "bind"
  | umemRegistration => "umem_reg"
  | ringSize role => s!"{role.name}_ring"
  | ringOffsets => "offsets"
  | statistics => "stats"
  | ringMapping role => s!"mmap_{role.name}"
  | poll => "poll"
  | sendto => "sendto"
  | recvfrom => "recvfrom"
  | packetSend => "packet_send"
  | memoryLimit => "setrlimit"
  | interfaceIndex => "if_nametoindex"
  | objectGet => "obj_get"
  | objectInfo => "obj_info"
  | mapCreate => "map_create"
  | mapUpdate => "map_update"
  | programLoad => "prog_load"
  | linkCreate => "link_create"
  | memory => "memory"

def all : List CallKind :=
  [socket, packetSocket, bind, umemRegistration, ringOffsets, statistics, poll, sendto, recvfrom, packetSend,
    memoryLimit, interfaceIndex, objectGet, objectInfo, mapCreate, mapUpdate, programLoad, linkCreate, memory] ++
    RingRole.all.map ringSize ++ RingRole.all.map ringMapping

def ofName? (name : String) : Option CallKind :=
  all.find? (·.name = name)

end CallKind

/-- A system call with its arguments. -/
inductive Call where
  | socket
  | packetSocket
  | bind (fd : Fd) (flags : UInt16) (index queue : UInt32)
  | umemRegistration (fd : Fd) (len : UInt64) (chunk headroom : UInt32)
  | ringSize (fd : Fd) (role : RingRole) (size : UInt32)
  | ringOffsets (fd : Fd)
  | statistics (fd : Fd)
  | ringMapping (fd : Fd) (role : RingRole) (len : UInt64)
  | poll (fd : Fd) (timeout : Int)
  | sendto (fd : Fd)
  | recvfrom (fd : Fd)
  | packetSend (fd : Fd) (index : UInt32) (address : MacAddress) (frame : Bytes)
  | memoryLimit (current greatest : UInt64)
  | interfaceIndex (name : String)
  | objectGet (path : String)
  | objectInfo (fd : Fd)
  | mapCreate (name : String) (shape : MapShape)
  | mapUpdate (fd : Fd) (key : UInt32) (value : Fd)
  | programLoad (instructions : Nat)
  | linkCreate (program : Fd) (index : UInt32) (flags : Nat)
  | memory (len : UInt64)

namespace Call

def kind : Call → CallKind
  | socket => .socket
  | packetSocket => .packetSocket
  | bind .. => .bind
  | umemRegistration .. => .umemRegistration
  | ringSize _ role _ => .ringSize role
  | ringOffsets _ => .ringOffsets
  | statistics _ => .statistics
  | ringMapping _ role _ => .ringMapping role
  | poll .. => .poll
  | sendto _ => .sendto
  | recvfrom _ => .recvfrom
  | packetSend .. => .packetSend
  | memoryLimit .. => .memoryLimit
  | interfaceIndex _ => .interfaceIndex
  | objectGet _ => .objectGet
  | objectInfo _ => .objectInfo
  | mapCreate .. => .mapCreate
  | mapUpdate .. => .mapUpdate
  | programLoad _ => .programLoad
  | linkCreate .. => .linkCreate
  | memory _ => .memory

/-- A 32-bit word read as a signed number. -/
def signed (w : UInt32) : Int := w.toInt32.toInt

/-- The text of the call, when it is shown in a trace. -/
def text? : Call → Option String
  | socket => "socket 44 524291 0"
  | packetSocket => "socket 17 524291 768"
  | bind fd flags index queue => s!"bind fd={fd} family=44 flags={flags} ifindex={index} queue={queue} shared=0 size=16"
  | umemRegistration fd len chunk headroom =>
    s!"setsockopt fd={fd} level=283 umem_reg len={len} chunk={chunk} headroom={headroom} flags=0 size=32"
  | ringSize fd role size => s!"setsockopt fd={fd} level=283 {role.name}_ring {size} size=4"
  | ringOffsets fd => s!"getsockopt fd={fd} level=283 offsets size=128"
  | statistics fd => s!"getsockopt fd={fd} level=283 stats size=48"
  | ringMapping fd role len => s!"mmap fd={fd} {role.name} len={len} prot=3 flags=32769"
  | poll fd timeout => s!"poll fd={fd} events=1 timeout={timeout}"
  | sendto fd => s!"sendto fd={fd} len=0 flags=64"
  | recvfrom fd => s!"recvfrom fd={fd} len=0 flags=64"
  | packetSend fd index address frame =>
    s!"packet_send fd={fd} flags=0 family=17 protocol=768 ifindex={signed index} hatype=0 pkttype=0 halen=6 size=20 " ++
      s!"addr={Bytes.toHex address.toList}0000 data={Bytes.toHex frame}"
  | memoryLimit current greatest => s!"setrlimit memlock {current} {greatest}"
  | interfaceIndex name => s!"if_nametoindex {name}"
  | objectGet path => s!"obj_get {path}"
  | objectInfo fd => s!"obj_info fd={fd}"
  | mapCreate name shape =>
    s!"map_create {name} type={shape.type} key={shape.keySize} value={shape.valueSize} max={shape.capacity}"
  | mapUpdate fd key value => s!"map_update fd={fd} key={key} value={UInt32.ofInt value} flags=0"
  | programLoad instructions => s!"prog_load insns={instructions}"
  | linkCreate program index flags => s!"link_create prog={program} ifindex={index} type=37 flags={flags}"
  | memory _ => none

/-- The result of the call as a trace shows it: minus the number of the error, and zero for where something is mapped. -/
def shown (call : Call) : Except Errno Int → Int
  | .error errno => -(errno.number : Int)
  | .ok result =>
    match call with
    | ringMapping .. | memory _ => 0
    | _ => result

end Call

/-- Where the wish to end the program comes from. -/
inductive SignalSource where
  | interrupt
  | termination
  deriving DecidableEq

namespace SignalSource

def event : SignalSource → Event
  | interrupt => .interruptReceived
  | termination => .terminationReceived

end SignalSource

/-- What a modelled kernel can be made to do between calls. -/
inductive Action where
  | deliver (packet : Bytes)
  | complete (most : Nat)
  | flags (role : RingRole) (flags : UInt32)
  | stop
  /-- The program is told to end. A program that has been told to stop already does not care. -/
  | signal (source : SignalSource)

namespace Action

/-- The name of the action in traces, when it is shown there. -/
def name? : Action → Option String
  | deliver _ => "deliver"
  | complete _ => "complete"
  | flags .. => "flags"
  | stop => "stop"
  | signal _ => none

end Action

/-- An entry of a trace. -/
inductive TraceEntry where
  /-- A call and its result, which is the address when something is mapped, or its error. -/
  | called (call : Call) (result : Except Errno Int)
  | transmitted (d : Descriptor) (frame : Bytes)
  | ringUnmapped (role : RingRole) (address len : UInt64)
  /-- Frame memory has been released, which is shown when the kernel knew it as a umem. -/
  | memoryUnmapped (address len : UInt64) (registered : Bool)
  | closed (fd : Fd)
  | entered (queue : UInt32) (fd : Fd)
  | acted (kind : CallKind) (number : Nat) (action : Action) (result : Int)

namespace TraceEntry

/-- The line of the entry, none when it is not shown. -/
def lines : TraceEntry → List String
  | called call result => call.text?.toList.map fun text => s!"{text} = {call.shown result}"
  | transmitted d frame => [s!"tx {d.addr} {d.len} {d.options} {frame.toHex}"]
  | ringUnmapped role _ len => [s!"munmap {role.name} len={len} = 0"]
  | memoryUnmapped _ len true => [s!"munmap umem len={len} = 0"]
  | memoryUnmapped _ _ false => []
  | closed fd => [s!"close fd={fd} = 0"]
  | entered _ _ => []
  | acted kind number action result =>
    action.name?.toList.map fun name => s!"at {kind.name} {number} {name} = {result}"

end TraceEntry

end XdpEcho
