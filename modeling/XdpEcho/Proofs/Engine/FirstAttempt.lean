import XdpEcho.Proofs.Engine.Phases

/-!
# Reservations that never wait

Slots of the fill ring are reserved by trying again until they are free, and a ring that the other side does not drain
would let this go on for ever. Here the cursor of the other side reads anything at any look, whatever the engine has
come to, and the attempts go on as long as there are values for them to find.

* `Producer.reserveWithin_eq_none` — a reservation that asks for too much waits for as long as the ring stays full.
* `EngineState.refillReading`, `Engine.processBatchBy`, `Engine.startBy` — offering frames with any number of attempts,
  and what the engine does with a way of offering frames.
* `EngineState.refillReading_eq` — the first attempt succeeds.
* `Engine.fill_ring_never_stalls` — so no batch and no start ever waits.
-/

namespace XdpEcho

/-! ### Attempts -/

namespace Producer

/-- As long as the cursor shows too few free slots, every further attempt fails. -/
theorem reserveWithin_eq_none {p : Producer} {count : UInt32} {looks : List UInt32} (known : p.limit - p.next < count)
    (full : ∀ consumer ∈ looks, consumer + p.size - p.next < count) : (p.reserveWithin count looks).1 = none := by
  induction looks generalizing p with
  | nil => rfl
  | cons consumer later ih =>
    have refreshed : consumer + p.size - p.next < count := full consumer List.mem_cons_self
    have asked : p.freeEntries consumer count =
        (consumer + p.size - p.next, { p with limit := consumer + p.size }) := by
      rw [freeEntries, if_neg (UInt32.not_le.mpr known)]
    have failed : p.reserve consumer count = (none, { p with limit := consumer + p.size }) := by
      simp only [reserve, asked, if_pos refreshed]
    simp only [reserveWithin, failed]
    exact ih refreshed fun other mem => full other (List.mem_cons_of_mem _ mem)

/-- An attempt that remembers enough free slots is the last one. -/
theorem reserveWithin_eq_of_le {p : Producer} {count : UInt32} (le : count ≤ p.limit - p.next) (second : UInt32)
    (later : List UInt32) :
    p.reserveWithin count (second :: later) = (some p.next, { p with next := p.next + count }) := by
  simp only [reserveWithin, reserve_eq_of_le le]

end Producer

/-- `offer` with any number of attempts to reserve slots. The look that asks for room finds `first` in the cursor, and
the attempts find one of `looks` after the other; when none of them succeeds, the result is still to come. -/
def offerReading (most first : UInt32) (looks : List UInt32) (view : Producer) (pool : FramePool) (ring : Ring UInt64) :
    Option Offer :=
  let (free, view) := view.freeEntries first most
  let (addrs, rest) := pool.allocateUpTo (min free most).toNat
  let count := UInt32.ofNat addrs.length
  if count = 0 then some ⟨0, view, rest, ring⟩
  else
    match view.reserveWithin count looks with
    | (none, _) => none
    | (some number, view) => some ⟨count, view, rest, (ring.writeFrom number addrs).publish count⟩

/-- Whatever the looks find, no attempt follows the first one. -/
theorem offerReading_eq (most first second : UInt32) (later : List UInt32) (view : Producer) (pool : FramePool)
    (ring : Ring UInt64) :
    offerReading most first (second :: later) view pool ring = some (offer most first second view pool ring) := by
  obtain ⟨limit, asked⟩ := view.freeEntries_eq first most
  obtain ⟨addrs, rest, taken⟩ : ∃ addrs rest, pool.allocateUpTo (min (limit - view.next) most).toNat = (addrs, rest) :=
    ⟨_, _, rfl⟩
  -- Frames are taken for slots that the view remembers to be free, and it is the view that is asked for them.
  have known := pool.ofNat_length_allocateUpTo_le (limit - view.next) most
  rw [taken] at known
  have reserved := Producer.reserveWithin_eq_of_le (p := { view with limit }) known second
  simp only [offerReading, offer, asked, taken, reserved]
  split
  next => rfl
  next => rfl

/-! ### Engines -/

variable {σ ω : Type}

namespace EngineState

/-- What is offered, and the state after it has been. -/
def afterOffer (s : EngineState σ ω) (result : Offer) : UInt32 × EngineState σ ω :=
  (result.count,
    { s with
      fill := result.view, pool := result.pool,
      env := { s.env with rings := { s.env.rings with fill := result.ring } } })

/-- `refill` with any number of attempts, and a cursor that reads anything. -/
def refillReading (first : UInt32) (looks : List UInt32) (most : UInt32) (s : EngineState σ ω) :
    Option (UInt32 × EngineState σ ω) :=
  (offerReading most first looks s.fill s.pool s.env.rings.fill).map s.afterOffer

/-- The first attempt succeeds, and what is offered depends on two looks only. -/
theorem refillReading_eq (first second : UInt32) (later : List UInt32) (most : UInt32) (s : EngineState σ ω) :
    refillReading first (second :: later) most s =
      some (s.afterOffer (offer most first second s.fill s.pool s.env.rings.fill)) := by
  rw [refillReading, offerReading_eq, Option.map_some]

/-- When the cursor does not move, this is `refill`. -/
theorem refillReading_consumer (later : List UInt32) (most : UInt32) (s : EngineState σ ω) :
    refillReading s.env.rings.fill.consumer (s.env.rings.fill.consumer :: later) most s = some (s.refill most) :=
  refillReading_eq _ _ later most s

end EngineState

namespace Engine

variable (e : Engine σ ω)

/-- A batch in which frames are offered in a given way. When that does not come to an end, neither does the batch. -/
def processBatchBy (refill : UInt32 → EngineState σ ω → Option (UInt32 × EngineState σ ω)) (s : EngineState σ ω) :
    Option (Except SocketError Nat × EngineState σ ω) :=
  let (descs, s) := e.drain s
  let worked :=
    if descs.isEmpty then some s
    else (refill (.ofNat s.pool.freeCount) s).map fun supplied => e.process descs supplied.2
  worked.map fun s =>
    match e.reclaim s with
    | (.ok (), s) => (.ok descs.length, s)
    | (.error error, s) => (.error error, s)

/-- A start in which frames are offered in a given way. -/
def startBy (refill : UInt32 → EngineState σ ω → Option (UInt32 × EngineState σ ω)) (layout : Layout)
    (processorState : σ) (env : Env ω) : Option (EngineState σ ω) :=
  let s := EngineState.attach layout processorState env
  (refill s.fill.size s).map fun (filled, s) =>
    s.mapEnv (·.emit (.fillRingPrimed filled s.pool.capacity e.processor.name))

/-- A batch ends when offering frames does, after whatever was received. -/
theorem exists_processBatchBy {ways : List UInt32 → UInt32 → EngineState σ ω → Option (UInt32 × EngineState σ ω)}
    (ends : ∀ most s, ∃ result, ∀ later, ways later most s = some result) (s : EngineState σ ω) :
    ∃ result, ∀ later, e.processBatchBy (ways later) s = some result := by
  obtain ⟨descs, t, drained⟩ : ∃ descs t, e.drain s = (descs, t) := ⟨_, _, rfl⟩
  obtain ⟨supplied, offered⟩ := ends (.ofNat t.pool.freeCount) t
  simp only [processBatchBy, drained]
  split
  next => exact ⟨_, fun _ => rfl⟩
  next => exact ⟨_, fun later => by rw [offered later]; rfl⟩

/-- A batch that offers frames as `replenish` does is the batch of the engine. -/
theorem processBatchBy_eq {refill : UInt32 → EngineState σ ω → Option (UInt32 × EngineState σ ω)}
    {s : EngineState σ ω} (same : ∀ most, refill most (e.drain s).2 = some ((e.drain s).2.refill most)) :
    e.processBatchBy refill s = some (e.processBatch s) := by
  obtain ⟨descs, t, drained⟩ : ∃ descs t, e.drain s = (descs, t) := ⟨_, _, rfl⟩
  rw [drained] at same
  simp only [processBatchBy, processBatch, drained, same]
  split
  next => rfl
  next => rfl

/-- A start ends when offering frames does. -/
theorem startBy_eq {refill : UInt32 → EngineState σ ω → Option (UInt32 × EngineState σ ω)} {layout : Layout}
    {processorState : σ} {env : Env ω} {result : UInt32 × EngineState σ ω}
    (offered : refill (EngineState.attach layout processorState env).fill.size (.attach layout processorState env) =
      some result) :
    e.startBy refill layout processorState env =
      some (result.2.mapEnv (·.emit (.fillRingPrimed result.1 result.2.pool.capacity e.processor.name))) := by
  simp only [startBy, offered, Option.map_some]

/-- The fill ring never stalls the engine. A reservation that asks for more slots than the ring has left goes on for
as long as the other side drains nothing. But take any engine in any state, and let the cursor of the fill ring read
anything at any look. Then whoever offers frames, be it the start or a batch, reserves their slots at the first attempt
and goes on as `offer` does with what the two looks found. So offering ends, and with it the start and the batch,
whatever further attempts would have found. When the cursor does not move, what they end with is what the engine does. -/
theorem fill_ring_never_stalls :
    (∀ first second : UInt32,
      (∀ most (s : EngineState σ ω) later, s.refillReading first (second :: later) most =
        some (s.afterOffer (offer most first second s.fill s.pool s.env.rings.fill))) ∧
      (∀ s, ∃ result, ∀ later, e.processBatchBy (EngineState.refillReading first (second :: later)) s = some result) ∧
      ∀ layout processorState env, ∃ t, ∀ later,
        e.startBy (EngineState.refillReading first (second :: later)) layout processorState env = some t) ∧
    (∀ s later, e.processBatchBy
      (EngineState.refillReading s.env.rings.fill.consumer (s.env.rings.fill.consumer :: later)) s =
        some (e.processBatch s)) ∧
    (∀ layout processorState env later, e.startBy
      (EngineState.refillReading env.rings.fill.consumer (env.rings.fill.consumer :: later)) layout processorState env =
        some (e.start layout processorState env)) ∧
    ∀ (view : Producer) (consumer count : UInt32), view.limit - view.next < count →
      consumer + view.size - view.next < count →
        ∀ attempts, (view.reserveWithin count (List.replicate attempts consumer)).1 = none := by
  refine ⟨fun first second => ⟨?_, ?_, ?_⟩, ?_, ?_, ?_⟩
  · intro most s later
    exact s.refillReading_eq first second later most
  · exact e.exists_processBatchBy fun most s => ⟨_, fun later => s.refillReading_eq first second later most⟩
  · intro layout processorState env
    exact ⟨_, fun later => e.startBy_eq (EngineState.refillReading_eq first second later _ _)⟩
  · intro s later
    exact e.processBatchBy_eq fun most => EngineState.refillReading_consumer later most (e.drain s).2
  · intro layout processorState env later
    exact e.startBy_eq (EngineState.refillReading_consumer later _ (.attach layout processorState env))
  · intro view consumer count known full attempts
    refine Producer.reserveWithin_eq_none known fun other mem => ?_
    rwa [List.eq_of_mem_replicate mem]

/-- Nothing has been taken off a fill ring of two slots, so a reservation of one slot would wait. The cursor then reads
seven at one look and two billion at the next, and two frames are offered at once. -/
theorem fill_ring_never_stalls_when_full :
    let l : Layout := ⟨2048, 4, by decide, by decide⟩
    let e : Engine Unit Unit :=
      ⟨⟨"mirror", fun packet state env => (.forward, packet, state, env)⟩,
        ⟨false, fun _ env => (.ok false, env), fun env => (.ok (), env), fun env => (.ok (), env)⟩, 3, .wait,
        .ofMilliseconds 1000⟩
    let s := e.start l ()
      { Env.blank () with rings := ⟨.blank 4 0, .blank 2 0, .blank 2 0, .blank 1 7⟩, umem := .zeroed l }
    (∀ attempts, (s.fill.reserveWithin 1 (List.replicate attempts s.env.rings.fill.consumer)).1 = none) ∧
      (∃ result, (∀ later, s.refillReading 7 (2000000000 :: later) 3 = some result) ∧ result.1 = 2) ∧
      ∃ result, ∀ later, e.processBatchBy (EngineState.refillReading 7 (2000000000 :: later)) s = some result := by
  intro l e s
  obtain ⟨ends, -, -, waits⟩ := fill_ring_never_stalls e
  obtain ⟨offering, batch, -⟩ := ends 7 2000000000
  refine ⟨?_, ⟨_, offering 3 s, by decide +kernel⟩, batch s⟩
  exact waits s.fill s.env.rings.fill.consumer 1 (by decide +kernel) (by decide +kernel)

end Engine

end XdpEcho
