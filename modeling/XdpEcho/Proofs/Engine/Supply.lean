import XdpEcho.Proofs.Simulator.Runs

/-!
# How many frames are offered

An engine that runs out of offered frames receives nothing, and one that offers more than the fill ring holds overwrites
what is pending there.

* `Supplies` — as many frames as there are and as there is room for go from the free stack to the fill ring, said
  without the view of the ring.
* `Orderly.supplies` — offering frames does this, when it is not asked for less.
* `Orderly.replenish_supplies`, `Engine.start_supplies` — a batch and a start ask for enough.
* `Engine.supply_maximal` — it holds at the start and in every batch of every run.
-/

namespace XdpEcho

variable {σ ω : Type} {l : Layout} {c : Custody} {s t : EngineState σ ω}

/-- The engine has gone from one state to another by offering frames on the fill ring, as many as are free and as there
are slots that hold nothing. -/
structure Supplies (s t : EngineState σ ω) (offered : List UInt64) : Prop where
  maximal : offered.length =
    min s.pool.freeCount (s.env.rings.fill.slots.size - s.env.rings.fill.pending.length)
  /-- The frames are those on top of the stack, in the order in which they leave it. -/
  top : offered = s.pool.stack.take offered.length
  pool : s.pool.Restacked t.pool (s.pool.stack.drop offered.length)
  /-- They are written under the numbers that follow, and published together. -/
  written : t.env.rings.fill =
    (s.env.rings.fill.writeFrom s.env.rings.fill.producer offered).publish (.ofNat offered.length)
  queued : t.env.rings.fill.pending = s.env.rings.fill.pending ++ offered
  view : t.fill.Tracks t.env.rings.fill 0
  /-- Nothing else has changed. -/
  rest : t = { s with
    fill := t.fill, pool := t.pool
    env := { s.env with rings := { s.env.rings with fill := t.env.rings.fill } } }

namespace Orderly

/-- Offering frames puts as many on the fill ring as it can, when it is not asked for less. -/
theorem supplies (orderly : Orderly l c s) (most : UInt32)
    (enough : min s.pool.freeCount (s.env.rings.fill.freeSlots 0) ≤ most.toNat) :
    ∃ offered, (s.refill most).1 = .ofNat offered.length ∧ Supplies s (s.refill most).2 offered := by
  obtain ⟨fill, pool, refilled, tracks, restacked⟩ := EngineState.refill_eq orderly.fill orderly.pool most
  have length : (s.pool.stack.take (s.env.rings.fill.offerable most)).length =
      min s.pool.freeCount (s.env.rings.fill.freeSlots 0) := by
    rw [List.length_take, Ring.offerable]
    rw [FramePool.freeCount] at enough ⊢
    omega
  have fits : (s.pool.stack.take (s.env.rings.fill.offerable most)).length ≤ s.env.rings.fill.freeSlots 0 := by
    rw [length]
    exact Nat.min_le_right _ _
  have pending := orderly.fill.lawful.pending_push (orderly.fill.lawful.room_of_le_freeSlots fits)
  obtain ⟨restacked, top⟩ := restacked.of_drop
  rw [refilled]
  refine ⟨_, rfl, ?_, top, restacked, rfl, pending, tracks, rfl⟩
  rw [length, Ring.freeSlots, Ring.length_pending, Nat.sub_zero]

/-- The number of free frames does not wrap. -/
theorem toNat_freeCount (orderly : Orderly l c s) : (UInt32.ofNat s.pool.freeCount).toNat = s.pool.freeCount := by
  have le := orderly.pool.freeCount_le
  have capacity := s.pool.layout.capacity_lt
  rw [FramePool.capacity] at le
  rw [UInt32.toNat_ofNat']
  omega

/-- An engine that replenishes asks for as many frames as there are. -/
theorem replenish_supplies (orderly : Orderly l c s) : ∃ offered, Supplies s s.replenish offered := by
  have enough : min s.pool.freeCount (s.env.rings.fill.freeSlots 0) ≤ (UInt32.ofNat s.pool.freeCount).toNat := by
    rw [orderly.toNat_freeCount]
    exact Nat.min_le_left _ _
  obtain ⟨offered, -, supplies⟩ := orderly.supplies (.ofNat s.pool.freeCount) enough
  exact ⟨offered, supplies⟩

end Orderly

/-! ### Every run -/

namespace Engine

variable {e : Engine σ ω} {held : ω → Custody}

/-- Processing leaves the fill ring alone. -/
theorem fill_process (keepsRings : e.processor.Keeps (·.rings)) (descs : List Descriptor) (s : EngineState σ ω) :
    (e.process descs s).env.rings.fill = s.env.rings.fill ∧ (e.process descs s).fill = s.fill := by
  obtain ⟨verdicts, processorState, env, judged, -, rings⟩ :=
    judgeAll_eq keepsRings (fun _ _ => rfl) (fun _ _ _ => rfl) descs s
  rw [process, judged]
  exact ⟨congrArg (·.fill) rings, rfl⟩

/-- An engine that starts asks for as many frames as the fill ring has slots, and none of them is taken. -/
theorem start_supplies (e : Engine σ ω) (l : Layout) (processorState : σ) {env : Env ω} (created : env.rings.Created) :
    ∃ offered t, Supplies (.attach l processorState env) t offered ∧
      offered.length = min env.rings.fill.slots.size l.capacity ∧
      e.start l processorState env =
        t.mapEnv (·.emit (.fillRingPrimed (.ofNat offered.length) l.capacity e.processor.name)) := by
  have orderly := orderly_attach l processorState created
  obtain ⟨_, _, fill⟩ := created.fill
  obtain ⟨lawful, empty, -⟩ := Ring.create_eq_ok fill
  have enough : min (EngineState.attach l processorState env).pool.freeCount (env.rings.fill.freeSlots 0) ≤
      env.rings.fill.size.toNat := by
    rw [lawful.sized.toNat_size, Ring.freeSlots]
    omega
  obtain ⟨offered, count, supplies⟩ := orderly.supplies env.rings.fill.size enough
  refine ⟨offered, _, supplies, ?_, ?_⟩
  · have all : (EngineState.attach l processorState env).pool.freeCount = l.capacity := by
      rw [FramePool.freeCount, EngineState.attach, FramePool.stack_full, List.length_reverse, Layout.length_frames]
    have maximal := supplies.maximal
    rw [all] at maximal
    rw [maximal, EngineState.attach, empty, List.length_nil, Nat.sub_zero, Nat.min_comm]
  · have capacity : ((EngineState.attach l processorState env).refill env.rings.fill.size).2.pool.capacity =
        l.capacity := congrArg Layout.capacity supplies.pool.layout
    rw [← count, ← capacity]
    rfl

/-- The other side gets as many frames as there are and as the fill ring holds. Take any processor, any four rings with
nothing on them and their cursors anywhere, and any order of batches and lawful steps of the other side before. In every
state that this leads to, a batch that receives something first offers the least of the free frames and the free slots
of the fill ring, however old the view of it is: the top of the free stack goes behind what is pending there, and
nothing else changes. What was received is processed next, which leaves the fill ring alone, and reclaiming ends the batch.
An engine that starts offers the least of all frames and all slots. -/
theorem supply_maximal :
    (∀ {σ ω : Type} {e : Engine σ ω} {l : Layout} {held : ω → Custody} {s t : EngineState σ ω}
      {descs : List Descriptor}, e.Confined l held → e.Reachable l held s → e.drain s = (descs, t) → descs ≠ [] →
        ∃ offered, Supplies t t.replenish offered ∧ t.pool = s.pool ∧ t.env = s.env ∧
          e.work s = (descs, e.process descs t.replenish) ∧
          (e.work s).2.env.rings.fill = t.replenish.env.rings.fill ∧
          (e.processBatch s).2 = (e.reclaim (e.work s).2).2) ∧
      ∀ {σ ω : Type} (e : Engine σ ω) (l : Layout) (processorState : σ) {env : Env ω}, env.rings.Created →
        ∃ offered t, Supplies (.attach l processorState env) t offered ∧
          offered.length = min env.rings.fill.slots.size l.capacity ∧
          e.start l processorState env =
            t.mapEnv (·.emit (.fillRingPrimed (.ofNat offered.length) l.capacity e.processor.name)) := by
  constructor
  · intro σ ω e l held s t descs confined reachable drained some
    have orderly := reachable.orderly confined
    obtain ⟨rx, rfl, afterDrain, -⟩ := orderly.drain drained
    obtain ⟨offered, supplies⟩ := afterDrain.replenish_supplies
    have worked := work_eq_of_drain drained some
    refine ⟨offered, supplies, rfl, rfl, worked, ?_, snd_processBatch e s⟩
    rw [worked]
    exact (fill_process confined.keepsRings _ _).1
  · intro σ ω e l processorState env created
    exact start_supplies e l processorState created

/-- A batch finds one packet received and one frame pending on a fill ring of two slots, whose cursors wrap. Two frames
are free and the view knows of no free slot, so one frame is offered, from the top of the stack. -/
theorem supply_maximal_for_one_slot :
    let l : Layout := ⟨2048, 4, by decide, by decide⟩
    let e : Engine Unit Simulator := ⟨.icmp, Simulator.endpoint false, 64, .wait, .ofMilliseconds 1000⟩
    let env := { Env.blank Simulator.idle with
      rings := ⟨.blank 4 0xffffffff, .blank 2 5, .blank 2 0xffffffff, .blank 2 7⟩, umem := .zeroed l }
    let s := e.act l (e.start l () env) (.deliver [7])
    (∃ offered t, Supplies (.attach l () env) t offered ∧ offered = [6144, 4096]) ∧
      e.drain s = ([⟨6144, 1, 0⟩], (e.drain s).2) ∧ (e.drain s).2.fill.limit = (e.drain s).2.fill.next ∧
      ∃ offered, Supplies (e.drain s).2 (e.drain s).2.replenish offered ∧ offered = [2048] := by
  intro l e env s
  have drives : e.DrivesSimulator := drivesSimulator_of_responder rfl rfl
  have created : env.rings.Created :=
    ⟨⟨4, 0xffffffff, rfl⟩, ⟨2, 5, rfl⟩, ⟨2, 0xffffffff, rfl⟩, ⟨2, 7, rfl⟩⟩
  have start : e.Simulated l (e.start l () env) := .start () ⟨created, Area.size_zeroed l, rfl⟩
  have simulated : e.Simulated l s := start.act (.deliver [7])
  have received : (e.drain s).1 = [⟨6144, 1, 0⟩] := by decide +kernel
  have drained : e.drain s = ([⟨6144, 1, 0⟩], (e.drain s).2) := by
    rw [← received]
  obtain ⟨first, t, primed, two, -⟩ := supply_maximal.2 e l () created
  obtain ⟨offered, supplies, -⟩ :=
    supply_maximal.1 drives.confined (simulated.reachable drives) drained (List.cons_ne_nil _ _)
  refine ⟨⟨first, t, primed, ?_⟩, drained, by decide +kernel, offered, supplies, ?_⟩
  · rw [primed.top, two]
    rfl
  · have one : offered.length = 1 := by
      rw [supplies.maximal]
      decide +kernel
    have top : (e.drain s).2.pool.stack.take 1 = [2048] := by decide +kernel
    rw [supplies.top, one, top]

end Engine

end XdpEcho
