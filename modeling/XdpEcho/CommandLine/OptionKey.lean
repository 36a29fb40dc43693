import XdpEcho.CommandLine.Options
import XdpEcho.Text.Number

/-!
# The options by name

Every option of the command line, with its names, its description, and what its value does.

* `OptionKey.store` reads the value of an option.
* `OptionKey.conflicts` says which options exclude each other.
-/

namespace XdpEcho

/-- An option of the command line. -/
inductive OptionKey where
  | dev
  | queue
  | busyPoll
  | pollTimeout
  | frameSize
  | frames
  | headroom
  | ringSize
  | umemRingSize
  | batchSize
  | copy
  | zeroCopy
  | needWakeup
  | statsInterval
  | processor
  | egressDev
  | xdpObject
  | xdpProgram
  | attachMode
  | mapName
  | mapPin
  | logLevel
  | help
  | version
  deriving DecidableEq

/-- Why the value of an option cannot be taken. -/
inductive ValueFault where
  | missing
  | notListed
  | malformed (reason : String)
  deriving DecidableEq

namespace OptionKey

/-- The options in the order of the help text. -/
def all : List OptionKey :=
  [dev, queue, busyPoll, pollTimeout, frameSize, frames, headroom, ringSize, umemRingSize, batchSize, copy, zeroCopy,
    needWakeup, statsInterval, processor, egressDev, xdpObject, xdpProgram, attachMode, mapName, mapPin, logLevel,
    help, version]

def long : OptionKey → String
  | dev => "dev"
  | queue => "queue"
  | busyPoll => "busy-poll"
  | pollTimeout => "poll-timeout-ms"
  | frameSize => "frame-size"
  | frames => "frames"
  | headroom => "headroom"
  | ringSize => "ring-size"
  | umemRingSize => "umem-ring-size"
  | batchSize => "batch-size"
  | copy => "copy"
  | zeroCopy => "zero-copy"
  | needWakeup => "need-wakeup"
  | statsInterval => "stats-interval"
  | processor => "processor"
  | egressDev => "egress-dev"
  | xdpObject => "xdp-object"
  | xdpProgram => "xdp-program"
  | attachMode => "attach-mode"
  | mapName => "map-name"
  | mapPin => "map-pin"
  | logLevel => "log-level"
  | help => "help"
  | version => "version"

def short? : OptionKey → Option Char
  | dev => some 'd'
  | queue => some 'q'
  | logLevel => some 'l'
  | help => some 'h'
  | version => some 'V'
  | _ => none

def ofLong? (name : String) : Option OptionKey :=
  all.find? (·.long = name)

def ofShort? (letter : Char) : Option OptionKey :=
  all.find? (·.short? = some letter)

def takesValue : OptionKey → Bool
  | busyPoll | copy | zeroCopy | needWakeup | help | version => false
  | _ => true

def placeholder (k : OptionKey) : String :=
  String.ofList (k.long.toList.map fun c => if c = '-' then '_' else c.toUpper)

def shown (k : OptionKey) : String :=
  if k.takesValue then s!"--{k.long} <{k.placeholder}>" else s!"--{k.long}"

/-! ### Values -/

def processors : List (String × ProcessorChoice × String) :=
  [("icmp", .icmp, "ICMPv4 echo replies through the TX ring"),
    ("icmpv6", .icmpv6, "ICMPv6 echo replies through the TX ring"),
    ("egress", .egress, "ICMPv4 echo replies sent out of --egress-dev")]

/-- The ways to attach a program under their names. -/
def attachModes : List (String × AttachMode) :=
  [("auto", .auto), ("skb", .generic), ("native", .native), ("hw", .offload)]

def readWord (text : String) : Except ValueFault UInt32 :=
  match Number.parseSigned 10 0x7fffffffffffffff text.toList with
  | .error error => .error (.malformed error.message)
  | .ok n =>
    if 0 ≤ n ∧ n ≤ 0xffffffff then .ok (.ofInt n) else .error (.malformed s!"{n} is not in 0..=4294967295")

def readLong (text : String) : Except ValueFault Nat :=
  (Number.parse 10 0xffffffffffffffff text.toList).mapError fun error => .malformed error.message

def readChoice {α : Type} (choices : List (String × α)) (text : String) : Except ValueFault α :=
  match choices.lookup text with
  | some choice => .ok choice
  | none => .error (if text.isEmpty then .missing else .notListed)

def readPath (text : String) : Except ValueFault String :=
  if text.isEmpty then .error .missing else .ok text

/-- Takes the value of an option. An option without a value is set by being there. -/
def store (k : OptionKey) (text : String) (o : Options) : Except ValueFault Options :=
  match k with
  | dev => return { o with device := text }
  | queue => return { o with queue := ← readWord text }
  | busyPoll => return { o with busyPoll := true }
  | pollTimeout => return { o with pollTimeout := ← readLong text }
  | frameSize => return { o with frameSize := ← readWord text }
  | frames => return { o with frames := ← readWord text }
  | headroom => return { o with headroom := ← readWord text }
  | ringSize => return { o with ringSize := ← readWord text }
  | umemRingSize => return { o with umemRingSize := ← readWord text }
  | batchSize => return { o with batchSize := ← readLong text }
  | copy => return { o with copy := true }
  | zeroCopy => return { o with zeroCopy := true }
  | needWakeup => return { o with needWakeup := true }
  | statsInterval => return { o with statsInterval := ← readLong text }
  | processor => return { o with processor := ← readChoice (processors.map fun p => (p.1, p.2.1)) text }
  | egressDev => return { o with egressDevice := some text }
  | xdpObject => return { o with object := some (← readPath text) }
  | xdpProgram => return { o with program := text }
  | attachMode => return { o with attachMode := ← readChoice attachModes text }
  | mapName => return { o with mapName := text }
  | mapPin => return { o with mapPin := some (← readPath text) }
  | logLevel => return { o with logLevel := text }
  | help | version => return o

def conflicts : OptionKey → OptionKey → Bool
  | copy, zeroCopy | zeroCopy, copy | mapPin, xdpObject | xdpObject, mapPin => true
  | _, _ => false

end OptionKey

end XdpEcho
