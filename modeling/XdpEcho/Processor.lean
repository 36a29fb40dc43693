import XdpEcho.EchoReply
import XdpEcho.Env

/-!
# Packet processors

A processor looks at one received packet and decides what becomes of its frame: it may be sent back, as the
processor has changed it, or be given back to the pool. A processor keeps a state of its own and may act on the
surroundings.

* `Processor.icmp` and `Processor.icmpv6` answer echo requests in place.
* `Processor.egress` answers them out of another link and gives every frame back.
-/

namespace XdpEcho

/-- What becomes of a frame. -/
inductive Verdict where
  /-- It is sent, as changed. -/
  | forward
  /-- It is given back to the pool. -/
  | drop
  deriving DecidableEq

/-- A packet processor with a state of type `σ`, in surroundings of type `ω`. -/
structure Processor (σ ω : Type) where
  /-- The name in the log. -/
  name : String
  /-- Decides on a packet and returns the packet as it is afterwards. -/
  process : Bytes → σ → Env ω → Verdict × Bytes × σ × Env ω

namespace Processor

variable {σ ω : Type}

/-- Answers a packet in place, and reports the reason when there is no reply. -/
def respond (reply : Bytes → Except DropReason Bytes) (packet : Bytes) (env : Env ω) :
    Verdict × Bytes × Env ω :=
  match reply packet with
  | .ok answer => (.forward, answer, env)
  | .error reason => (.drop, packet, env.emit (.packetDropped reason))

/-- The processor that answers in place and keeps no state. -/
def responder (name : String) (reply : Bytes → Except DropReason Bytes) : Processor σ ω where
  name := name
  process packet state env :=
    let (verdict, packet, env) := respond reply packet env
    (verdict, packet, state, env)

def icmp : Processor σ ω := responder "icmp-echo" EchoReply.ipv4

def icmpv6 : Processor σ ω := responder "icmpv6-echo" EchoReply.ipv6

/-- Whether a failure is reported when it is the `n`-th one. Reporting only at powers of two keeps a dead link from
filling the log. -/
def reportsFailure (n : UInt64) : Bool := n.toNat.isPowerOfTwo

/-- Answers ICMP echo requests out of another link, on which `send` puts a whole frame and returns how many bytes
went out. The state counts the failed sends. The frame is given back whatever happens, for the link has a copy. -/
def egress (send : Bytes → Env ω → Except SystemError UInt64 × Env ω) : Processor UInt64 ω where
  name := "egress"
  process packet failures env :=
    match EchoReply.ipv4 packet with
    | .error reason => (.drop, packet, failures, env.emit (.packetDropped reason))
    | .ok reply =>
      match send reply env with
      | (.ok sent, env) => (.drop, reply, failures, { env with stats := env.stats.recordTx 1 sent })
      | (.error error, env) =>
        let failures := failures + 1
        let env := if reportsFailure failures then env.emit (.egressFailed error failures) else env
        (.drop, reply, failures, env)

end Processor

end XdpEcho
