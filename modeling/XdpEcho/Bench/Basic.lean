import XdpEcho.Bench.Meter
import XdpEcho.Bench.Peer
import XdpEcho.Bench.RecordingLink
import XdpEcho.Bench.Simulator
import XdpEcho.Engine.Run

/-!
# A test bench for engines

An engine on a bench has a simulated kernel side or a bare one, a recording link beside it, a meter on its endpoint, and
a countdown that raises the stop flag when a given packet is about to be processed.
-/

namespace XdpEcho

/-- What is around an engine on the bench, apart from the shared memory. -/
structure Bench where
  simulator : Simulator
  peer : Peer
  link : RecordingLink
  meter : Meter
  /-- In how many packets the stop flag is to be raised, if at all. -/
  countdown : Option Nat

namespace Bench

variable {α σ : Type}

def around (rings : Rings) : Bench where
  simulator := .idle
  peer := .attach rings
  link := .fresh
  meter := .zero
  countdown := none

def withSimulator (f : Env Simulator → α × Env Simulator) : Env Bench → α × Env Bench :=
  Env.focus (·.simulator) (fun simulator b => { b with simulator }) f

def withPeer (f : Env Peer → α × Env Peer) : Env Bench → α × Env Bench :=
  Env.focus (·.peer) (fun peer b => { b with peer }) f

/-- Sends a frame out of the other link. -/
def send (frame : Bytes) : Env Bench → Except SystemError UInt64 × Env Bench :=
  Env.focus (·.link) (fun link b => { b with link }) (RecordingLink.send frame)

/-- Puts the meter of the bench on an endpoint. -/
def metered (p : Endpoint Bench) : Endpoint Bench :=
  Meter.endpoint (·.meter) (fun meter b => { b with meter }) p

/-- The metered endpoint of the simulated kernel side. -/
def simulatedEndpoint (needWakeup : Bool) : Endpoint Bench :=
  metered ((Simulator.endpoint needWakeup).focus (·.simulator) (fun simulator b => { b with simulator }))

/-- The metered endpoint of the bare other side. -/
def bareEndpoint (needWakeup : Bool) : Endpoint Bench :=
  metered ((Peer.endpoint needWakeup).focus (·.peer) (fun peer b => { b with peer }))

/-- Counts a packet that is about to be processed, and raises the stop flag at the end of the countdown. -/
def countPacket (env : Env Bench) : Env Bench :=
  match env.world.countdown with
  | none => env
  | some n =>
    if n ≤ 1 then { env.mapWorld fun b => { b with countdown := none } with stop := true }
    else env.mapWorld fun b => { b with countdown := some (n - 1) }

/-- A processor under the countdown of the bench. -/
def counted (p : Processor σ Bench) : Processor σ Bench :=
  { p with process := fun packet state env => p.process packet state (countPacket env) }

/-- A processor that leaves packets alone and repeats a list of verdicts. Its state counts the packets so far. -/
def scripted (verdicts : List Verdict) : Processor UInt64 Bench where
  name := "scripted"
  process packet turn env :=
    (verdicts.getD (turn.toNat % verdicts.length) .drop, packet, turn + 1, env)

end Bench

end XdpEcho
