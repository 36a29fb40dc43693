import XdpEcho.Engine.Basic

/-!
# Running an engine

A running engine looks at its stop flag before every turn, and a turn is a whole batch: when the flag is raised, the
batch that is under way is still completed.

* `Engine.turn` is one turn, after the flag was found down.
* `Engine.run` takes turns until the flag is up or something fails, but not more than it is allowed.
-/

namespace XdpEcho

namespace Engine

variable {σ ω : Type}

/-- One turn of a waiting engine: it waits for packets, and then handles a batch even if there are none, so that
sent frames are collected. -/
def waitingTurn (e : Engine σ ω) (s : EngineState σ ω) : Except SocketError Unit × EngineState σ ω :=
  match e.endpoint.waitReadable e.pollTimeout s.env with
  | (.error error, env) => (.error (.system error), { s with env })
  | (.ok _, env) =>
    match e.processBatch { s with env } with
    | (.error error, s) => (.error error, s)
    | (.ok _, s) => (.ok (), s)

/-- One turn of a busy engine: it handles a batch, and when there was nothing to handle and the other side has asked
for it, has the other side look at the fill ring. -/
def busyTurn (e : Engine σ ω) (s : EngineState σ ω) : Except SocketError Unit × EngineState σ ω :=
  match e.processBatch s with
  | (.error error, s) => (.error error, s)
  | (.ok received, s) =>
    if received = 0 ∧ e.endpoint.needWakeup ∧ s.env.rings.fill.needsWakeup then
      match e.endpoint.wakeupRx s.env with
      | (.error error, env) => (.error (.system error), { s with env })
      | (.ok (), env) => (.ok (), { s with env })
    else (.ok (), s)

def turn (e : Engine σ ω) (s : EngineState σ ω) : Except SocketError Unit × EngineState σ ω :=
  match e.poller with
  | .wait => e.waitingTurn s
  | .busy => e.busyTurn s

/-- Takes turns until the stop flag is found up or something fails. The result is `none` when neither has happened
within the given number of looks at the flag. -/
def run (e : Engine σ ω) : Nat → EngineState σ ω → Option (Except SocketError Unit) × EngineState σ ω
  | 0, s => (none, s)
  | looks + 1, s =>
    if s.env.stop then (some (.ok ()), s.mapEnv (·.emit (.engineStopped s.outstandingTx)))
    else
      match e.turn s with
      | (.error error, s) => (some (.error error), s)
      | (.ok (), s) => e.run looks s

end Engine

end XdpEcho
