import XdpEcho.Endpoint
import XdpEcho.Ring.Consumer
import XdpEcho.Ring.Producer

/-!
# A simulated kernel side

The other side of the four rings, moved by hand: it receives a packet, takes what is queued for sending, and gives
sent frames back. Each step looks at the rings afresh, so it needs to remember nothing but the frames in flight.

* `Simulator.deliver` plays one received packet through the fill ring and the receive ring, or drops it.
* `Simulator.transmit` takes everything off the transmit ring.
* `Simulator.complete` puts the oldest frames in flight on the completion ring.
-/

namespace XdpEcho

/-- What the simulated kernel side remembers. -/
structure Simulator where
  /-- The frames taken for sending and not yet given back, oldest first. -/
  inFlight : List UInt64
  /-- How often it has been told of the transmit ring. -/
  kicks : UInt64
  /-- How often it has been told of the fill ring. -/
  wakeups : UInt64

namespace Simulator

def idle : Simulator := ⟨[], 0, 0⟩

/-- Receives a packet: takes a frame off the fill ring, copies the packet there and posts its descriptor. Returns
the address, or `none` when there is no frame, no slot or a packet larger than a frame; then nothing has changed. -/
def deliver (l : Layout) (packet : Bytes) (env : Env Simulator) : Option UInt64 × Env Simulator :=
  let rings := env.rings
  let (available, fill) := (Consumer.attach rings.fill).peek rings.fill.producer 1
  let (free, rx) := (Producer.attach rings.rx).freeEntries rings.rx.consumer 1
  if available = 0 ∨ free = 0 ∨ l.frameSize.toNat < packet.length then (none, env)
  else
    let addr := rings.fill.read fill.next
    match env.umem.write? addr packet with
    | none => (none, env)
    | some umem =>
      let (_, fillRing) := fill.release rings.fill 1
      match rx.reserve rings.rx.consumer 1 with
      | (none, _) => (none, { env with umem, rings := { rings with fill := fillRing } })
      | (some number, _) =>
        let rxRing := (rings.rx.write number ⟨addr, UInt32.ofNat packet.length, 0⟩).publish 1
        (some addr, { env with umem, rings := { rings with fill := fillRing, rx := rxRing } })

/-- Takes every descriptor off the transmit ring. The frames stay in flight until they are given back. -/
def transmit (env : Env Simulator) : List Descriptor × Env Simulator :=
  let (descs, _, ring) := (Consumer.attach env.rings.tx).take env.rings.tx 0xffffffff
  (descs,
    { env with
      rings := { env.rings with tx := ring },
      world := { env.world with inFlight := env.world.inFlight ++ descs.map (·.addr) } })

/-- Gives back up to `most` frames in flight, oldest first, as the completion ring has room. Returns how many. -/
def complete (most : Nat) (env : Env Simulator) : Nat × Env Simulator :=
  let ring := env.rings.completion
  let count := UInt32.ofNat (min most env.world.inFlight.length)
  let (free, view) := (Producer.attach ring).freeEntries ring.consumer count
  let count := min free count
  match view.reserve ring.consumer count with
  | (none, _) => (0, env)
  | (some number, _) =>
    let addrs := env.world.inFlight.take count.toNat
    (count.toNat,
      { env with
        rings := { env.rings with completion := (ring.writeFrom number addrs).publish count },
        world := { env.world with inFlight := env.world.inFlight.drop count.toNat } })

/-- The bytes at an address, none when they do not lie inside the umem. -/
def frame (addr : UInt64) (len : Nat) (env : Env Simulator) : Bytes :=
  (env.umem.read? addr len).getD []

/-- The socket that the simulated kernel side presents to an engine. It is readable when a packet has been received,
and it counts how often it is told of a ring. -/
def endpoint (needWakeup : Bool) : Endpoint Simulator where
  needWakeup := needWakeup
  waitReadable _ env := (.ok (env.rings.rx.pendingCount != 0), env)
  kickTx env := (.ok (), env.mapWorld fun s => { s with kicks := s.kicks + 1 })
  wakeupRx env := (.ok (), env.mapWorld fun s => { s with wakeups := s.wakeups + 1 })

end Simulator

end XdpEcho
