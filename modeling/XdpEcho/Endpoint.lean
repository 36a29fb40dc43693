import XdpEcho.Duration
import XdpEcho.Env

/-!
# Endpoints

What an engine asks of the socket it drives, apart from the shared memory: to wait for packets, to have the transmit
ring looked at, and to have the fill ring looked at. Each of them is a call to the other side, which may do anything
to the surroundings, and each may fail.
-/

namespace XdpEcho

/-- The calls that an engine makes to its socket. -/
structure Endpoint (ω : Type) where
  /-- Whether the other side sets the flags of a ring before it needs to be woken. -/
  needWakeup : Bool
  /-- Waits until packets have been received or the time is over. -/
  waitReadable : Duration → Env ω → Except SystemError Bool × Env ω
  /-- Has the other side look at the transmit ring. -/
  kickTx : Env ω → Except SystemError Unit × Env ω
  /-- Has the other side look at the fill ring. -/
  wakeupRx : Env ω → Except SystemError Unit × Env ω

namespace Endpoint

variable {α ω : Type}

/-- The endpoint of a part of the surroundings, as an endpoint of all of them. -/
def focus (get : ω → α) (set : α → ω → ω) (p : Endpoint α) : Endpoint ω where
  needWakeup := p.needWakeup
  waitReadable timeout := Env.focus get set (p.waitReadable timeout)
  kickTx := Env.focus get set p.kickTx
  wakeupRx := Env.focus get set p.wakeupRx

end Endpoint

end XdpEcho
