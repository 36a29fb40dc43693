import XdpEcho.Event
import XdpEcho.Ring.Basic
import XdpEcho.Stats
import XdpEcho.Umem.Area

/-!
# What an engine shares with its surroundings

The memory that the engine, its processor and the other side of the rings have in common, the counters and the log,
the flag that stops the engine, and whatever else there is around it: a simulated or a modelled kernel, another link.
-/

namespace XdpEcho

/-- The four rings of a socket. -/
structure Rings where
  rx : Ring Descriptor
  tx : Ring Descriptor
  fill : Ring UInt64
  completion : Ring UInt64

namespace Rings

def empty : Rings := ⟨.empty, .empty, .empty, .empty⟩

instance : Inhabited Rings := ⟨empty⟩

def setFlags (r : Rings) (flags : UInt32) : RingRole → Rings
  | .rx => { r with rx := r.rx.setFlags flags }
  | .tx => { r with tx := r.tx.setFlags flags }
  | .fill => { r with fill := r.fill.setFlags flags }
  | .completion => { r with completion := r.completion.setFlags flags }

end Rings

/-- Everything around an engine. The type `ω` is of what the engine itself knows nothing about. -/
structure Env (ω : Type) where
  rings : Rings
  umem : Area
  stats : Stats
  /-- The events so far, the first one first. -/
  log : Array Event
  stop : Bool
  /-- All the rest. -/
  world : ω

namespace Env

variable {ω α β : Type}

def blank (world : ω) : Env ω where
  rings := .empty
  umem := .empty
  stats := .zero
  log := #[]
  stop := false
  world := world

def emit (env : Env ω) (event : Event) : Env ω :=
  { env with log := env.log.push event }

def mapWorld (f : ω → ω) (env : Env ω) : Env ω :=
  { env with world := f env.world }

def withWorld (env : Env ω) (world : α) : Env α where
  rings := env.rings
  umem := env.umem
  stats := env.stats
  log := env.log
  stop := env.stop
  world := world

/-- Does something with a part of the rest as if it were all of it. -/
def focus (get : ω → α) (set : α → ω → ω) (f : Env α → β × Env α) (env : Env ω) : β × Env ω :=
  let (result, inner) := f (env.withWorld (get env.world))
  (result, inner.withWorld (set inner.world env.world))

end Env

end XdpEcho
