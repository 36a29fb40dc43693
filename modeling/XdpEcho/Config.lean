import XdpEcho.Duration
import XdpEcho.Ring.Basic
import XdpEcho.Umem.Layout

/-!
# Configuration of a socket and its engine

All settings, with their defaults and the check that they make sense together.

* `Config.validate` names the first setting that does not make sense.
* `Setting` is one change to a configuration.
-/

namespace XdpEcho

/-- How the engine learns of received packets. -/
inductive Poller where
  | busy
  | wait
  deriving DecidableEq

/-- What the engine does with a packet. -/
inductive ProcessorKind where
  | icmp
  | icmpv6
  | egress (interface : String)
  deriving DecidableEq

/-- How a redirect program hooks into the driver of a link. -/
inductive AttachMode where
  /-- The kernel picks; when the driver refuses, the generic hook is tried. -/
  | auto
  | generic
  | native
  | offload
  deriving DecidableEq

namespace AttachMode

def name : AttachMode → String
  | auto => "Auto"
  | generic => "Generic"
  | native => "Native"
  | offload => "Offload"

/-- The flags that ask the kernel for the mode. -/
def flags : AttachMode → Nat
  | auto => 0
  | generic => 2
  | native => 4
  | offload => 8

end AttachMode

/-- The settings of a socket and its engine. -/
structure Config where
  frameSize : UInt32
  frameCount : UInt32
  headroom : UInt32
  rxSize : UInt32
  txSize : UInt32
  fillSize : UInt32
  completionSize : UInt32
  batchSize : Nat
  poller : Poller
  pollTimeout : Duration
  bindFlags : UInt16
  needWakeup : Bool
  statsInterval : Duration
  processor : ProcessorKind
  deriving DecidableEq

/-- Why settings do not make sense. -/
inductive ConfigError where
  | frameSize (size : UInt32)
  | noFrames
  | headroom (headroom frameSize : UInt32)
  /-- The number of slots of a ring is not a power of two. -/
  | ringSize (role : RingRole) (size : UInt32)
  | batchSize (size : Nat) (rxSize : UInt32)
  | pollTimeout
  | noEgressInterface
  | layout (cause : LayoutError)
  | described (text : String)
  deriving DecidableEq

namespace ConfigError

def ringName : RingRole → String
  | .rx => "rx"
  | .tx => "tx"
  | .fill => "fill"
  | .completion => "completion"

def message : ConfigError → String
  | frameSize size => s!"frame size {size} must be 2048 or 4096"
  | noFrames => "frame count must be non-zero"
  | headroom bytes size => s!"headroom {bytes} leaves no room in a {size} byte frame"
  | ringSize role size => s!"{ringName role} ring size {size} must be a power of two"
  | batchSize size rxSize => s!"batch size {size} must be in 1..={rxSize}"
  | pollTimeout => "poll timeout too large"
  | noEgressInterface => "egress processor needs an interface"
  | layout cause => cause.message
  | described text => text

end ConfigError

namespace Config

def standard : Config where
  frameSize := 4096
  frameCount := 4096
  headroom := 0
  rxSize := 2048
  txSize := 2048
  fillSize := 2048
  completionSize := 2048
  batchSize := 64
  poller := .wait
  pollTimeout := .ofMilliseconds 1000
  bindFlags := 0
  needWakeup := false
  statsInterval := .ofMilliseconds 2000
  processor := .icmp

instance : Inhabited Config := ⟨standard⟩

def ringSize (c : Config) : RingRole → UInt32
  | .rx => c.rxSize
  | .tx => c.txSize
  | .fill => c.fillSize
  | .completion => c.completionSize

/-- The longest timeout that can be asked for, in milliseconds. -/
def maxTimeout : Nat := 2147483647

/-- A ring must have a power of two as its number of slots. -/
def checkRing (c : Config) (role : RingRole) : Except ConfigError Unit :=
  if (c.ringSize role).toNat.isPowerOfTwo then .ok () else .error (.ringSize role (c.ringSize role))

/-- Accepts settings that make sense together, and otherwise names the first that does not. -/
def validate (c : Config) : Except ConfigError Unit := do
  if ¬ AdmissibleFrameSize c.frameSize then
    throw (.frameSize c.frameSize)
  if c.frameCount = 0 then
    throw .noFrames
  if c.headroom ≥ c.frameSize then
    throw (.headroom c.headroom c.frameSize)
  c.checkRing .rx
  c.checkRing .tx
  c.checkRing .fill
  c.checkRing .completion
  if c.batchSize = 0 ∨ c.rxSize.toNat < c.batchSize then
    throw (.batchSize c.batchSize c.rxSize)
  if maxTimeout < c.pollTimeout.milliseconds then
    throw .pollTimeout
  if c.processor = .egress "" then
    throw .noEgressInterface

end Config

/-- One change to a configuration. -/
inductive Setting where
  | frameSize (size : UInt32)
  | frameCount (count : UInt32)
  | headroom (bytes : UInt32)
  | batchSize (size : Nat)
  | bindFlags (flags : UInt16)
  | ringSizes (rx tx : UInt32)
  | umemRingSizes (fill completion : UInt32)
  | poller (poller : Poller)
  | pollTimeout (timeout : Duration)
  | statsInterval (interval : Duration)
  | needWakeup (enabled : Bool)
  | processor (kind : ProcessorKind)
  | reset

namespace Setting

def apply (c : Config) : Setting → Config
  | frameSize size => { c with frameSize := size }
  | frameCount count => { c with frameCount := count }
  | headroom bytes => { c with headroom := bytes }
  | batchSize size => { c with batchSize := size }
  | bindFlags flags => { c with bindFlags := flags }
  | ringSizes rx tx => { c with rxSize := rx, txSize := tx }
  | umemRingSizes fill completion => { c with fillSize := fill, completionSize := completion }
  | poller p => { c with poller := p }
  | pollTimeout timeout => { c with pollTimeout := timeout }
  | statsInterval interval => { c with statsInterval := interval }
  | needWakeup enabled => { c with needWakeup := enabled }
  | processor kind => { c with processor := kind }
  | reset => .standard

end Setting

end XdpEcho
