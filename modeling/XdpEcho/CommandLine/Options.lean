import XdpEcho.Config

/-!
# Options

What the program is told on its command line, and the configuration of the engine that follows from it.
-/

namespace XdpEcho

/-- The processors by the names that the command line knows. -/
inductive ProcessorChoice where
  | icmp
  | icmpv6
  | egress
  deriving DecidableEq

/-- What the program is told. -/
structure Options where
  device : String
  queue : UInt32
  busyPoll : Bool
  pollTimeout : Nat
  frameSize : UInt32
  frames : UInt32
  headroom : UInt32
  ringSize : UInt32
  umemRingSize : UInt32
  batchSize : Nat
  copy : Bool
  zeroCopy : Bool
  needWakeup : Bool
  statsInterval : Nat
  processor : ProcessorChoice
  egressDevice : Option String
  object : Option String
  program : String
  attachMode : AttachMode
  mapName : String
  mapPin : Option String
  logLevel : String
  deriving DecidableEq

namespace Options

def standard : Options where
  device := ""
  queue := 0
  busyPoll := false
  pollTimeout := 1000
  frameSize := 4096
  frames := 4096
  headroom := 0
  ringSize := 2048
  umemRingSize := 2048
  batchSize := 64
  copy := false
  zeroCopy := false
  needWakeup := false
  statsInterval := 2
  processor := .icmp
  egressDevice := none
  object := none
  program := "xdp_sock_prog"
  attachMode := .auto
  mapName := "xsks_map"
  mapPin := none
  logLevel := "info"

/-- The flag of a socket that copies packets. -/
def copyFlag : UInt16 := 2

/-- The flag of a socket that does not copy packets. -/
def zeroCopyFlag : UInt16 := 4

def config (o : Options) : Config where
  frameSize := o.frameSize
  frameCount := o.frames
  headroom := o.headroom
  rxSize := o.ringSize
  txSize := o.ringSize
  fillSize := o.umemRingSize
  completionSize := o.umemRingSize
  batchSize := o.batchSize
  poller := if o.busyPoll then .busy else .wait
  pollTimeout := .ofMilliseconds o.pollTimeout
  bindFlags := (if o.copy then copyFlag else 0) ||| (if o.zeroCopy then zeroCopyFlag else 0)
  needWakeup := o.needWakeup
  statsInterval := .ofParts (max o.statsInterval 1) 0
  processor := match o.processor with
    | .icmp => .icmp
    | .icmpv6 => .icmpv6
    | .egress => .egress (o.egressDevice.getD "")

end Options

end XdpEcho
