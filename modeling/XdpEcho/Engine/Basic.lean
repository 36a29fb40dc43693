import XdpEcho.Endpoint
import XdpEcho.Processor
import XdpEcho.Ring.Consumer
import XdpEcho.Ring.Producer
import XdpEcho.Umem.FramePool

/-!
# The engine

The engine owns the frame pool and drives one side of the four rings of a socket. It works in batches. A batch takes
received descriptors off the receive ring, offers fresh frames on the fill ring, runs the processor over the packets,
puts the forwarded ones on the transmit ring and gives the others back to the pool, and finally collects the frames
that have been sent.

* `offer` puts free frames on a fill ring.
* `triage` says which frames of a batch are sent and which are given back.
* `Engine.processBatch` is one batch, made of `drain`, `replenish`, `process` and `reclaim`.
-/

namespace XdpEcho

/-! ### Offering frames -/

/-- What there is after frames have been offered on a fill ring. -/
structure Offer where
  count : UInt32
  view : Producer
  pool : FramePool
  ring : Ring UInt64

/-- Offers up to `most` free frames, as many as the ring has room for. The consumer cursor of the ring is looked at
up to twice and may change in between: `first` and `second` are what the two looks find. Room is asked for before
frames are taken, so the reservation that follows finds its slots without a second look. -/
def offer (most first second : UInt32) (view : Producer) (pool : FramePool) (ring : Ring UInt64) : Offer :=
  let (free, view) := view.freeEntries first most
  let (addrs, rest) := pool.allocateUpTo (min free most).toNat
  let count := UInt32.ofNat addrs.length
  if count = 0 then ⟨0, view, rest, ring⟩
  else
    match view.reserveWithin count [second] with
    | (none, view) => ⟨0, view, pool, ring⟩
    | (some number, view) => ⟨count, view, rest, (ring.writeFrom number addrs).publish count⟩

/-! ### Sending or giving back -/

/-- Splits a judged batch into the descriptors that are sent, the first `room` forwarded ones, and the others, which
are given back. Both keep their order. -/
def triage : Nat → List (Descriptor × Verdict) → List Descriptor × List Descriptor
  | _, [] => ([], [])
  | room + 1, (d, .forward) :: rest =>
    let (sent, returned) := triage room rest
    (d :: sent, returned)
  | room, (d, _) :: rest =>
    let (sent, returned) := triage room rest
    (sent, d :: returned)

/-- The descriptor that is put on the transmit ring for a received one. -/
def Descriptor.outgoing (d : Descriptor) : Descriptor :=
  { d with options := 0 }

/-- The bytes of all packets of a batch. -/
def totalLength (descs : List Descriptor) : UInt64 :=
  descs.foldl (fun sum d => sum + d.len.toUInt64) 0

/-! ### Engine and state -/

/-- How an engine is set up. -/
structure Engine (σ ω : Type) where
  processor : Processor σ ω
  endpoint : Endpoint ω
  batchSize : Nat
  poller : Poller
  /-- The longest single wait for packets. -/
  pollTimeout : Duration

/-- What changes while an engine works. -/
structure EngineState (σ ω : Type) where
  rx : Consumer
  tx : Producer
  fill : Producer
  completion : Consumer
  pool : FramePool
  /-- Frames put on the transmit ring and not yet collected. -/
  outstandingTx : UInt32
  processorState : σ
  env : Env ω

namespace EngineState

variable {σ ω : Type}

/-- Fresh views of the rings around, and a pool that holds every frame. -/
def attach (layout : Layout) (processorState : σ) (env : Env ω) : EngineState σ ω where
  rx := .attach env.rings.rx
  tx := .attach env.rings.tx
  fill := .attach env.rings.fill
  completion := .attach env.rings.completion
  pool := .full layout
  outstandingTx := 0
  processorState := processorState
  env := env

def mapEnv (f : Env ω → Env ω) (s : EngineState σ ω) : EngineState σ ω :=
  { s with env := f s.env }

/-- Offers up to `most` frames on the fill ring and returns how many were offered. -/
def refill (s : EngineState σ ω) (most : UInt32) : UInt32 × EngineState σ ω :=
  let ring := s.env.rings.fill
  let result := offer most ring.consumer ring.consumer s.fill s.pool ring
  (result.count,
    { s with
      fill := result.view, pool := result.pool,
      env := { s.env with rings := { s.env.rings with fill := result.ring } } })

/-- Offers as many frames as the pool has and the fill ring takes. -/
def replenish (s : EngineState σ ω) : EngineState σ ω :=
  (s.refill (UInt32.ofNat s.pool.freeCount)).2

end EngineState

namespace Engine

variable {σ ω : Type}

/-- The engine with the given settings. Whatever they say, a batch holds at least one packet. -/
def ofConfig (processor : Processor σ ω) (endpoint : Endpoint ω) (c : Config) : Engine σ ω where
  processor := processor
  endpoint := endpoint
  batchSize := max 1 c.batchSize
  poller := c.poller
  pollTimeout := c.pollTimeout

def batchCount (e : Engine σ ω) : UInt32 := UInt32.ofNat e.batchSize

/-- Copies up to one batch of descriptors out of the receive ring. They stay on the ring until the batch has been
processed. -/
def drain (e : Engine σ ω) (s : EngineState σ ω) : List Descriptor × EngineState σ ω :=
  let ring := s.env.rings.rx
  let (count, rx) := s.rx.peek ring.producer e.batchCount
  (ring.readFrom rx.next count.toNat, { s with rx })

/-- Runs the processor over one packet. A descriptor that does not lie inside the umem has no packet; it is reported
and its frame given back. -/
def judge (e : Engine σ ω) (d : Descriptor) (s : EngineState σ ω) : Verdict × EngineState σ ω :=
  match s.env.umem.read? d.addr d.len.toNat with
  | none => (.drop, { s with env := s.env.emit (.outsideUmem d.addr d.len) })
  | some packet =>
    let (verdict, after, processorState, env) := e.processor.process packet s.processorState s.env
    (verdict, { s with
      processorState,
      env := { env with umem := env.umem.write d.addr (after.take packet.length) } })

/-- Runs the processor over the packets of a batch, in order. -/
def judgeAll (e : Engine σ ω) : List Descriptor → EngineState σ ω → List Verdict × EngineState σ ω
  | [], s => ([], s)
  | d :: rest, s =>
    let (verdict, s) := e.judge d s
    let (verdicts, s) := e.judgeAll rest s
    (verdict :: verdicts, s)

/-- Puts the forwarded packets of a judged batch on the transmit ring as far as it has room, gives the other frames
back to the pool, and releases the slots of the receive ring. -/
def settle (descs : List Descriptor) (verdicts : List Verdict) (s : EngineState σ ω) : EngineState σ ω :=
  let count := UInt32.ofNat descs.length
  let forward := UInt32.ofNat (verdicts.count .forward)
  let ring := s.env.rings.tx
  let (free, tx) := if forward = 0 then (0, s.tx) else s.tx.freeEntries ring.consumer forward
  let accepted := min free forward
  let (number, tx) := tx.reserve ring.consumer accepted
  let (sent, returned) := triage accepted.toNat (descs.zip verdicts)
  let sentCount := UInt32.ofNat sent.length
  let ring := (ring.writeFrom (number.getD 0) (sent.map Descriptor.outgoing)).publish sentCount
  let (rx, rxRing) := s.rx.release s.env.rings.rx count
  let stats := (s.env.stats.recordRx count.toUInt64 (totalLength descs)).recordTx sentCount.toUInt64
    (totalLength sent)
  let stats := stats.recordDropped (UInt64.ofNat returned.length)
  let log := if accepted < forward then s.env.log.push (.transmitRingFull (forward - accepted)) else s.env.log
  { s with
    rx, tx,
    pool := s.pool.releaseAll (returned.map (·.addr)),
    outstandingTx := s.outstandingTx + sentCount,
    env := { s.env with rings := { s.env.rings with rx := rxRing, tx := ring }, stats, log } }

/-- Runs the processor over a batch and settles what becomes of its frames. -/
def process (e : Engine σ ω) (descs : List Descriptor) (s : EngineState σ ω) : EngineState σ ω :=
  let (verdicts, s) := e.judgeAll descs s
  settle descs verdicts s

/-- Whether the other side is to be told of the transmit ring: always, or only when it has asked for it. -/
def kicks (e : Engine σ ω) (s : EngineState σ ω) : Bool :=
  !e.endpoint.needWakeup || s.env.rings.tx.needsWakeup

/-- Gives every frame on the completion ring back to the pool. -/
def collect (s : EngineState σ ω) : EngineState σ ω :=
  let (addrs, completion, ring) := s.completion.take s.env.rings.completion s.completion.size
  let reclaimed := UInt32.ofNat addrs.length
  let log :=
    if s.outstandingTx < reclaimed then s.env.log.push (.excessCompletions reclaimed s.outstandingTx)
    else s.env.log
  { s with
    completion,
    pool := s.pool.releaseAll addrs,
    outstandingTx := s.outstandingTx - min reclaimed s.outstandingTx,
    env := { s.env with rings := { s.env.rings with completion := ring }, log } }

/-- When frames are outstanding, has them sent and collects those that are back. -/
def reclaim (e : Engine σ ω) (s : EngineState σ ω) : Except SocketError Unit × EngineState σ ω :=
  if s.outstandingTx = 0 then (.ok (), s)
  else if e.kicks s then
    match e.endpoint.kickTx s.env with
    | (.error error, env) => (.error (.system error), { s with env })
    | (.ok (), env) => (.ok (), collect { s with env })
  else (.ok (), collect s)

/-- One batch. Returns how many packets were received. When the other side cannot be told of the transmit ring, the
batch has been processed all the same, but nothing has been collected. -/
def processBatch (e : Engine σ ω) (s : EngineState σ ω) : Except SocketError Nat × EngineState σ ω :=
  let (descs, s) := e.drain s
  let s := if descs.isEmpty then s else e.process descs s.replenish
  match e.reclaim s with
  | (.ok (), s) => (.ok descs.length, s)
  | (.error error, s) => (.error error, s)

/-- Takes over the rings around and gives the other side as many frames as the fill ring holds. -/
def start (e : Engine σ ω) (layout : Layout) (processorState : σ) (env : Env ω) : EngineState σ ω :=
  let s := EngineState.attach layout processorState env
  let (filled, s) := s.refill s.fill.size
  s.mapEnv (·.emit (.fillRingPrimed filled s.pool.capacity e.processor.name))

/-- Lets go of the rings. Refused releases are reported, for they mean that frames were handed over twice. -/
def finish (s : EngineState σ ω) : EngineState σ ω :=
  if 0 < s.pool.rejected then s.mapEnv (·.emit (.releasesRefused s.pool.rejected)) else s

end Engine

end XdpEcho
