import XdpEcho.Config
import XdpEcho.EchoReply
import XdpEcho.SocketError
import XdpEcho.Stats

/-!
# Log events

What the engine, the processors and the sockets report while they run. Each event has a level, a message and named
fields; the fields have an order, which is the order in which a log line shows them.
-/

namespace XdpEcho

/-- The number by which a process knows an open file. -/
abbrev Fd := Int

/-- How much an event matters. -/
inductive LogLevel where
  | debug
  | info
  | warn
  | error
  deriving DecidableEq

namespace LogLevel

/-- The name of the level in log lines. -/
def name : LogLevel → String
  | debug => "DEBUG"
  | info => "INFO"
  | warn => "WARN"
  | error => "ERROR"

/-- The rank of the level, higher for what matters more. -/
def rank : LogLevel → Nat
  | debug => 1
  | info => 2
  | warn => 3
  | error => 4

end LogLevel

/-- The value of a field of an event. -/
inductive FieldValue where
  | number (n : Int)
  | quoted (text : String)
  | shown (text : String)
  deriving DecidableEq

/-- Something worth reporting. -/
inductive Event where
  | packetDropped (reason : DropReason)
  | outsideUmem (addr : UInt64) (len : UInt32)
  | fillRingPrimed (filled : UInt32) (pool : Nat) (processor : String)
  | transmitRingFull (overflow : UInt32)
  | excessCompletions (reclaimed outstanding : UInt32)
  | releasesRefused (rejected : UInt64)
  | engineStopped (outstanding : UInt32)
  | egressFailed (error : SystemError) (failures : UInt64)
  | umemRegistered (frames frameSize : UInt32) (fd : Fd)
  | umemDeleted (fd : Fd)
  | socketBound (interface : String) (index queue : UInt32) (fd : Fd) (flags : UInt16)
  | socketDeleted (interface : String) (queue : UInt32)
  | socketRegistered (queue : UInt32) (fd : Fd)
  | attachFallback (interface : String) (cause : BpfError)
  | programAttached (interface program : String) (mode : AttachMode)
  | programDetached (interface : String)
  | report (line : String)
  | running (interface : String) (queue : UInt32)
  | interruptReceived
  | terminationReceived
  | kernelStatistics (counters : KernelStatistics)
  | statisticsUnavailable (error : SocketError)
  | shutdownComplete
  | failed (message : String)
  deriving DecidableEq

namespace DropReason

/-- The message and the fields of the reason. -/
def describe : DropReason → String × List (String × FieldValue)
  | runt length => ("drop: runt frame", [("len", .number length)])
  | notIpv4 etherType => ("drop: not IPv4", [("eth_type", .number etherType.toNat)])
  | badIpv4Header => ("drop: bad IPv4 header", [])
  | notIcmp protocol => ("drop: not ICMP", [("proto", .number protocol.toNat)])
  | notEchoRequest => ("drop: not an ICMP echo request", [])
  | notIpv6 etherType => ("drop: not IPv6", [("eth_type", .number etherType.toNat)])
  | badIpv6Header => ("drop: bad IPv6 header", [])
  | notIcmpv6 nextHeader => ("drop: not ICMPv6", [("next_header", .number nextHeader.toNat)])
  | notEchoRequestV6 => ("drop: not an ICMPv6 echo request", [])

end DropReason

namespace Event

def level : Event → LogLevel
  | packetDropped _ | engineStopped _ | umemRegistered .. | umemDeleted _ | socketDeleted .. => .debug
  | fillRingPrimed .. | socketBound .. | socketRegistered .. | programAttached .. | programDetached _
  | report _ | running .. | interruptReceived | terminationReceived | kernelStatistics _ | shutdownComplete => .info
  | outsideUmem .. | transmitRingFull _ | excessCompletions .. | releasesRefused _ | egressFailed ..
  | attachFallback .. => .warn
  | statisticsUnavailable _ | failed _ => .error

/-- The message and the fields of the event. -/
def describe : Event → String × List (String × FieldValue)
  | packetDropped reason => reason.describe
  | outsideUmem addr len =>
    ("RX descriptor outside the umem", [("addr", .number addr.toNat), ("len", .number len.toNat)])
  | fillRingPrimed filled pool processor =>
    ("fill ring primed", [("filled", .number filled.toNat), ("pool", .number pool), ("processor", .quoted processor)])
  | transmitRingFull overflow =>
    ("TX ring full, dropping replies", [("overflow", .number overflow.toNat)])
  | excessCompletions reclaimed outstanding =>
    ("completion ring returned more frames than were sent",
      [("reclaimed", .number reclaimed.toNat), ("outstanding", .number outstanding.toNat)])
  | releasesRefused rejected =>
    ("frame pool refused frees during the run", [("rejected", .number rejected.toNat)])
  | engineStopped outstanding => ("engine stopped", [("outstanding_tx", .number outstanding.toNat)])
  | egressFailed error failures =>
    ("egress send failed", [("error", .shown error.message), ("failures", .number failures.toNat)])
  | umemRegistered frames frameSize fd =>
    ("umem registered",
      [("frames", .number frames.toNat), ("frame_size", .number frameSize.toNat), ("fd", .number fd)])
  | umemDeleted fd => ("umem deleted", [("fd", .number fd)])
  | socketBound interface index queue fd flags =>
    ("AF_XDP socket bound",
      [("interface", .quoted interface), ("ifindex", .number index.toNat), ("queue_id", .number queue.toNat),
        ("fd", .number fd), ("flags", .number flags.toNat)])
  | socketDeleted interface queue =>
    ("AF_XDP socket deleted", [("interface", .shown interface), ("queue_id", .number queue.toNat)])
  | socketRegistered queue fd =>
    ("registered AF_XDP socket in XSKMAP", [("queue_id", .number queue.toNat), ("fd", .number fd)])
  | attachFallback interface cause =>
    ("default XDP attach failed, trying generic mode",
      [("interface", .quoted interface), ("error", .shown cause.message)])
  | programAttached interface program mode =>
    ("XDP program attached",
      [("interface", .quoted interface), ("program", .quoted program), ("mode", .shown mode.name)])
  | programDetached interface => ("detaching XDP program", [("interface", .shown interface)])
  | report line => (line, [])
  | running interface queue =>
    ("running, press Ctrl+C to stop", [("dev", .shown interface), ("queue", .number queue.toNat)])
  | interruptReceived => ("received Ctrl+C", [])
  | terminationReceived => ("received SIGTERM", [])
  | kernelStatistics counters =>
    ("kernel XDP statistics", counters.entries.map fun (name, value) => (name, .number value.toNat))
  | statisticsUnavailable error => ("reading kernel XDP statistics", [("error", .shown error.message)])
  | shutdownComplete => ("shutdown complete", [])
  | failed message => (message, [])

end Event

end XdpEcho
