import XdpEcho.Endpoint
import XdpEcho.Ring.Consumer
import XdpEcho.Ring.Producer

/-!
# The bare other side of the rings

The other side of four rings as views that live as long as the rings. It posts whatever it is told to post, also
what no kernel would.
-/

namespace XdpEcho

/-- The views of the other side. -/
structure Peer where
  rx : Producer
  tx : Consumer
  fill : Consumer
  completion : Producer

namespace Peer

def attach (rings : Rings) : Peer :=
  ⟨.attach rings.rx, .attach rings.tx, .attach rings.fill, .attach rings.completion⟩

/-- Posts received descriptors until the receive ring is full, and returns how many. -/
def postRx (descs : List Descriptor) (env : Env Peer) : Nat × Env Peer :=
  let (count, view, ring) := env.world.rx.push env.rings.rx descs
  (count, { env with rings := { env.rings with rx := ring }, world := { env.world with rx := view } })

/-- Posts addresses on the completion ring until it is full, and returns how many. -/
def postCompletions (addrs : List UInt64) (env : Env Peer) : Nat × Env Peer :=
  let (count, view, ring) := env.world.completion.push env.rings.completion addrs
  (count,
    { env with rings := { env.rings with completion := ring }, world := { env.world with completion := view } })

/-- Takes up to `most` addresses off the fill ring. -/
def takeFill (most : UInt32) (env : Env Peer) : List UInt64 × Env Peer :=
  let (addrs, view, ring) := env.world.fill.take env.rings.fill most
  (addrs, { env with rings := { env.rings with fill := ring }, world := { env.world with fill := view } })

/-- Takes up to `most` descriptors off the transmit ring. -/
def takeTx (most : UInt32) (env : Env Peer) : List Descriptor × Env Peer :=
  let (descs, view, ring) := env.world.tx.take env.rings.tx most
  (descs, { env with rings := { env.rings with tx := ring }, world := { env.world with tx := view } })

/-- A socket whose calls all succeed and do nothing. -/
def endpoint (needWakeup : Bool) : Endpoint Peer where
  needWakeup := needWakeup
  waitReadable _ env := (.ok (env.rings.rx.pendingCount != 0), env)
  kickTx env := (.ok (), env)
  wakeupRx env := (.ok (), env)

end Peer

end XdpEcho
