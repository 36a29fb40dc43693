import XdpEcho.Proofs.Engine.Conservation

/-!
# Engines over the simulated kernel side

An engine and the simulated kernel side take turns in any order.

* `Move`, `Engine.act`, `Engine.Simulated` — the turns, and the states that they lead to.
* `Engine.Simulated.orderly`, `Engine.Simulated.size_umem` — in each of them every frame is in one place, and the
  memory has room for all frames.
* `Engine.processBatch_of_rx_empty` — a batch that finds nothing received does nothing to the other three rings but
  collect.
-/

namespace XdpEcho

/-- A frame that is offered has room for a packet. -/
theorem Orderly.contains_offered {σ ω : Type} {l : Layout} {c : Custody} {s : EngineState σ ω} (orderly : Orderly l c s)
    (size : s.env.umem.size = l.capacity * l.frameSize.toNat) {addr : UInt64}
    (offered : addr ∈ s.env.rings.fill.pending) {length : Nat} (fits : length ≤ l.frameSize.toNat) :
    s.env.umem.Contains addr length := by
  rw [Area.Contains, size]
  exact (Nat.add_le_add_left fits _).trans
    (Layout.toNat_add_frameSize_le (orderly.offered (List.mem_append_left _ offered)))

/-- What happens next to an engine over the simulated kernel side. -/
inductive Move where
  /-- A packet arrives. -/
  | deliver (packet : Bytes)
  /-- Everything queued for sending is taken. -/
  | transmit
  /-- Up to `most` sent frames are given back. -/
  | complete (most : Nat)
  /-- The engine handles a batch. -/
  | batch

namespace Engine

variable {σ : Type} {l : Layout} {e : Engine σ Simulator} {s : EngineState σ Simulator}

/-- The state after a move. -/
def act (e : Engine σ Simulator) (l : Layout) (s : EngineState σ Simulator) : Move → EngineState σ Simulator
  | .deliver packet => { s with env := (Simulator.deliver l packet s.env).2 }
  | .transmit => { s with env := (Simulator.transmit s.env).2 }
  | .complete most => { s with env := (Simulator.complete most s.env).2 }
  | .batch => (e.processBatch s).2

/-- An engine drives the simulated kernel side, and its processor sees packets only. -/
structure DrivesSimulator (e : Engine σ Simulator) : Prop where
  endpoint : ∃ needWakeup, e.endpoint = Simulator.endpoint needWakeup
  keepsRings : e.processor.Keeps (·.rings)
  keepsSize : e.processor.Keeps (·.umem.size)
  keepsWorld : e.processor.Keeps (·.world)

theorem drivesSimulator_of_responder {name : String} {reply : Bytes → Except DropReason Bytes} {needWakeup : Bool}
    (processor : e.processor = .responder name reply) (endpoint : e.endpoint = Simulator.endpoint needWakeup) :
    e.DrivesSimulator := by
  refine ⟨⟨needWakeup, endpoint⟩, ?_, ?_, ?_⟩
  all_goals exact processor ▸ Processor.keeps_responder _ _ fun _ _ => rfl

/-- Surroundings at the start: rings with nothing on them, memory for all frames, and nothing in flight. -/
structure Opened (l : Layout) (env : Env Simulator) : Prop where
  rings : env.rings.Created
  umem : env.umem.size = l.capacity * l.frameSize.toNat
  idle : env.world.inFlight = []

/-- The states that an engine over the simulated kernel side can get to. -/
inductive Simulated (e : Engine σ Simulator) (l : Layout) : EngineState σ Simulator → Prop
  | start {env : Env Simulator} (processorState : σ) (opened : Opened l env) :
      Simulated e l (e.start l processorState env)
  | act {s : EngineState σ Simulator} (before : Simulated e l s) (move : Move) : Simulated e l (e.act l s move)

theorem DrivesSimulator.confined (drives : e.DrivesSimulator) : e.Confined l Simulator.custody := by
  obtain ⟨needWakeup, endpoint⟩ := drives.endpoint
  refine Simulator.confined drives.keepsRings (fun packet state env => ?_) endpoint
  exact congrArg Simulator.custody (drives.keepsWorld packet state env)

/-- A move that is not a batch changes the surroundings only. -/
theorem act_eq_of_ne_batch {move : Move} (other : move ≠ .batch) :
    e.act l s move = { s with env := (e.act l s move).env } := by
  cases move with
  | batch => exact absurd rfl other
  | _ => rfl

/-- A move that is not a batch is a run of lawful steps. -/
theorem kernelRun_act (orderly : Orderly l (Simulator.custody s.env.world) s) {move : Move} (other : move ≠ .batch) :
    KernelRun l (s.env.port Simulator.custody) ((e.act l s move).env.port Simulator.custody) := by
  cases move with
  | deliver packet =>
    refine Simulator.kernelRun_deliver packet orderly.fill.lawful orderly.rx.lawful ?_
    exact (List.append_subset.mp orderly.offered).1
  | transmit => exact Simulator.kernelRun_transmit orderly.tx.lawful
  | complete most => exact Simulator.kernelRun_complete most orderly.completion.lawful orderly.length_tx_lt
  | batch => exact absurd rfl other

/-- Every move is a batch or a run of lawful steps. -/
theorem Reachable.act (confined : e.Confined l Simulator.custody) (reachable : e.Reachable l Simulator.custody s)
    (move : Move) : e.Reachable l Simulator.custody (e.act l s move) := by
  by_cases batch : move = .batch
  · rw [batch]
    exact .batch reachable
  · rw [act_eq_of_ne_batch batch]
    exact .kernel reachable (kernelRun_act (reachable.orderly confined) batch)

theorem Simulated.reachable (drives : e.DrivesSimulator) (simulated : e.Simulated l s) :
    e.Reachable l Simulator.custody s := by
  induction simulated with
  | start processorState opened =>
    exact .start processorState opened.rings (congrArg (Custody.mk []) opened.idle)
  | act _ move ih => exact ih.act drives.confined move

theorem Simulated.orderly (drives : e.DrivesSimulator) (simulated : e.Simulated l s) :
    Orderly l (Simulator.custody s.env.world) s :=
  (simulated.reachable drives).orderly drives.confined

/-! ### Reclaiming from the simulated kernel side -/

/-- Telling the simulated kernel side of the transmit ring never fails, and collecting leaves the other three rings, the
frames and what is in flight alone. -/
theorem reclaim_eq_ok (drives : e.DrivesSimulator) (s : EngineState σ Simulator) :
    ∃ t, e.reclaim s = (.ok (), t) ∧ t.env.rings.rx = s.env.rings.rx ∧ t.env.rings.tx = s.env.rings.tx ∧
      t.env.rings.fill = s.env.rings.fill ∧ t.env.umem = s.env.umem ∧
      t.env.world.inFlight = s.env.world.inFlight := by
  obtain ⟨needWakeup, endpoint⟩ := drives.endpoint
  rw [reclaim]
  split
  next => exact ⟨s, rfl, rfl, rfl, rfl, rfl, rfl⟩
  next =>
    split
    next =>
      rw [endpoint]
      exact ⟨_, rfl, rfl, rfl, rfl, rfl, rfl⟩
    next => exact ⟨_, rfl, rfl, rfl, rfl, rfl, rfl⟩

/-- A batch that finds nothing received leaves everything alone but the completion ring, and so the pool. -/
theorem processBatch_of_rx_empty (drives : e.DrivesSimulator) (rx : s.rx.Tracks s.env.rings.rx)
    (empty : s.env.rings.rx.pending = []) :
    ∃ t, e.processBatch s = (.ok 0, t) ∧ t.env.rings.rx = s.env.rings.rx ∧ t.env.rings.tx = s.env.rings.tx ∧
      t.env.rings.fill = s.env.rings.fill ∧ t.env.umem = s.env.umem ∧
      t.env.world.inFlight = s.env.world.inFlight := by
  obtain ⟨descs, view, drained, -, oldest, -⟩ := e.drain_eq rx
  rw [empty, List.prefix_nil] at oldest
  obtain ⟨t, reclaimed, same⟩ := reclaim_eq_ok drives { s with rx := view }
  refine ⟨t, ?_, same⟩
  simp only [processBatch, drained, oldest, List.isEmpty_nil, if_true, reclaimed, List.length_nil]

/-! ### The memory keeps its size -/

theorem size_umem_judgeAll (keeps : e.processor.Keeps (·.umem.size)) (descs : List Descriptor)
    (s : EngineState σ Simulator) : (e.judgeAll descs s).2.env.umem.size = s.env.umem.size := by
  induction descs generalizing s with
  | nil => rfl
  | cons d rest ih =>
    have judged : (e.judge d s).2.env.umem.size = s.env.umem.size := by
      rw [judge]
      cases s.env.umem.read? d.addr d.len.toNat with
      | none => rfl
      | some packet => exact (Area.size_write _ _ _).trans (keeps packet s.processorState s.env)
    exact (ih (e.judge d s).2).trans judged

theorem size_umem_processBatch (drives : e.DrivesSimulator) (s : EngineState σ Simulator) :
    (e.processBatch s).2.env.umem.size = s.env.umem.size := by
  obtain ⟨descs, t, drained, same⟩ : ∃ descs t, e.drain s = (descs, t) ∧ t.env.umem = s.env.umem := ⟨_, _, rfl, rfl⟩
  obtain ⟨u, processed, worked⟩ : ∃ u, (if descs.isEmpty then t else e.process descs t.replenish) = u ∧
      u.env.umem.size = t.env.umem.size := by
    refine ⟨_, rfl, ?_⟩
    split
    next => rfl
    next => exact size_umem_judgeAll drives.keepsSize descs t.replenish
  obtain ⟨v, reclaimed, -, -, -, umem, -⟩ := reclaim_eq_ok drives u
  simp only [processBatch, drained, processed, reclaimed]
  rw [umem, worked, same]

theorem size_umem_act (drives : e.DrivesSimulator) (orderly : Orderly l (Simulator.custody s.env.world) s)
    (move : Move) : (e.act l s move).env.umem.size = s.env.umem.size := by
  cases move with
  | deliver packet =>
    rw [Engine.act, Simulator.deliver_eq l packet orderly.fill.lawful orderly.rx.lawful]
    split
    next => rfl
    next =>
      split
      next => exact Area.size_write _ _ _
      next => rfl
  | transmit => rfl
  | complete most =>
    rw [Engine.act, Simulator.complete_eq most orderly.completion.lawful orderly.length_tx_lt]
  | batch => exact size_umem_processBatch drives s

theorem Simulated.size_umem (drives : e.DrivesSimulator) (simulated : e.Simulated l s) :
    s.env.umem.size = l.capacity * l.frameSize.toNat := by
  induction simulated with
  | start processorState opened => exact opened.umem
  | act before move ih => exact (size_umem_act drives (before.orderly drives) move).trans ih

end Engine

end XdpEcho
