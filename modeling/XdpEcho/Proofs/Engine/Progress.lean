import XdpEcho.Proofs.Engine.Outstanding

/-!
# What a batch moves

How far a batch gets, whatever its processor says about packets: it takes the oldest descriptors off the receive ring,
at least one when there is any, and puts no more than that on the transmit ring. What is not received yet stays where it
is, also while the other side is told of the transmit ring.

* `Engine.Passes`, `Engine.work_passes` — what the work on a batch does to the receive ring and the transmit ring.
* `KernelRun.consumer_rx`, `Orderly.kernelRun_rx` — the other side only adds to what has been received.
* `Engine.processBatch_received` — what is left on the receive ring after a batch.
-/

namespace XdpEcho

variable {σ ω : Type} {l : Layout} {s t : EngineState σ ω}

/-! ### Steps of the other side -/

/-- The other side releases nothing on the receive ring. -/
theorem KernelStep.consumer_rx {port port' : Rings × Custody} (step : KernelStep l port port') :
    port'.1.rx.consumer = port.1.rx.consumer := by
  cases step with
  | takeFill => rfl
  | postRx => exact Ring.consumer_push _ _
  | takeTx => rfl
  | postCompletion => rfl
  | flag rings custody role flags => cases role <;> rfl

theorem KernelRun.consumer_rx {port port' : Rings × Custody} (run : KernelRun l port port') :
    port'.1.rx.consumer = port.1.rx.consumer := by
  induction run with
  | refl => rfl
  | tail _ step ih => exact step.consumer_rx.trans ih

namespace Orderly

variable {rings rings' : Rings} {c c' : Custody}

/-- What the other side posts comes behind what has been received before. -/
theorem kernelStep_rx (orderly : Orderly l c (s.withRings rings))
    (step : KernelStep l (rings, c) (rings', c')) : rings.rx.pending <+: rings'.rx.pending := by
  cases step with
  | takeFill => exact List.prefix_refl _
  | @postRx _ _ before after addr d taken here fits room =>
    have posted : (rings.rx.push [d]).pending = rings.rx.pending ++ [d] := orderly.rx.lawful.pending_push room
    rw [posted]
    exact List.prefix_append _ _
  | takeTx => exact List.prefix_refl _
  | postCompletion => exact List.prefix_refl _
  | flag _ _ role flags => exact ⟨[], (List.append_nil _).trans (rings.pending_setFlags flags role).1.symm⟩

theorem kernelRun_rx (orderly : Orderly l c (s.withRings rings)) (run : KernelRun l (rings, c) (rings', c')) :
    rings.rx.pending <+: rings'.rx.pending := by
  suffices ∀ port : Rings × Custody, KernelRun l (rings, c) port → rings.rx.pending <+: port.1.rx.pending from
    this _ run
  intro port run
  induction run with
  | refl => exact List.prefix_refl _
  | tail before step ih => exact ih.trans ((orderly.kernelRun before).kernelStep_rx step)

end Orderly

namespace Engine

variable {e : Engine σ ω} {held : ω → Custody} {c : Custody}

/-! ### The work on a batch -/

/-- The engine has gone from one state to another by taking the given descriptors, the oldest ones, off the receive
ring, and by putting some descriptors on the transmit ring, not more. -/
structure Passes (s t : EngineState σ ω) (received : List Descriptor) : Prop where
  left : received ++ t.env.rings.rx.pending = s.env.rings.rx.pending
  released : t.env.rings.rx.consumer = s.env.rings.rx.consumer + .ofNat received.length
  queued : ∃ sent, t.env.rings.tx.pending = s.env.rings.tx.pending ++ sent ∧ sent.length ≤ received.length

theorem process_passes (confined : e.Confined l held) (orderly : Orderly l c s) {descs : List Descriptor}
    (oldest : descs <+: s.env.rings.rx.pending) (known : descs.length ≤ (s.rx.limit - s.rx.next).toNat) :
    Passes s (e.process descs s) descs ∧ held (e.process descs s).env.world = held s.env.world := by
  obtain ⟨verdicts, processorState, env, judged, length, same⟩ :=
    judgeAll_eq confined.keepsPort (fun _ _ => rfl) (fun _ _ _ => rfl) descs s
  obtain ⟨rings, custody⟩ := Prod.mk.inj same
  have after : Orderly l c { s with processorState, env } := orderly.around processorState rings
  obtain ⟨sent, returned, split⟩ : ∃ sent returned,
    triage (env.rings.tx.freeSlots 0) (descs.zip verdicts) = (sent, returned) := ⟨_, _, rfl⟩
  obtain ⟨rx, tx, settled, -, -, left, pending⟩ := settle_eq after.rx after.tx known length split
  obtain ⟨later, received⟩ := oldest
  have fewer := (perm_of_triage length split).length_eq
  rw [process, judged]
  dsimp only
  rw [settled]
  refine ⟨⟨?_, ?_, sent.map Descriptor.outgoing, ?_, ?_⟩, custody⟩
  · rw [left, rings, ← received, List.drop_left]
  · rw [Ring.consumer_consume, rings]
  · rw [pending, rings]
  · rw [List.length_map]
    rw [List.length_append] at fewer
    omega

/-- The work on a batch gets on as long as a batch holds a packet and one has been received. -/
theorem work_passes (confined : e.Confined l held) (orderly : Orderly l c s) :
    Passes s (e.work s).2 (e.work s).1 ∧ held (e.work s).2.env.world = held s.env.world ∧
      (e.batchCount ≠ 0 → (e.work s).1 = [] → s.env.rings.rx.pending = []) := by
  obtain ⟨descs, rx, drained, tracks, oldest, known, -, some⟩ := e.drain_eq orderly.rx
  simp only [work, drained]
  split
  next none =>
    obtain rfl := List.isEmpty_iff.mp none
    exact ⟨⟨rfl, (UInt32.add_zero _).symm, [], (List.append_nil _).symm, Nat.le_refl _⟩, rfl, some⟩
  next =>
    have supplied : Orderly l c ({ s with rx } : EngineState σ ω).replenish :=
      Orderly.replenish { orderly with rx := tracks }
    obtain ⟨⟨left, released, queued⟩, custody⟩ := process_passes confined supplied oldest known
    exact ⟨⟨left, released, queued⟩, custody, some⟩

/-! ### A batch -/

/-- While the engine reclaims, the other side only adds to what has been received. -/
theorem reclaim_received (confined : e.Confined l held) (orderly : Orderly l (held s.env.world) s) :
    s.env.rings.rx.pending <+: (e.reclaim s).2.env.rings.rx.pending ∧
      (e.reclaim s).2.env.rings.rx.consumer = s.env.rings.rx.consumer := by
  have kicked := confined.kickTx s.env
  have added : s.env.rings.rx.pending <+: (e.endpoint.kickTx s.env).2.rings.rx.pending :=
    Orderly.kernelRun_rx (s := s) orderly kicked
  exact e.reclaim_invariant
    (P := fun t => s.env.rings.rx.pending <+: t.env.rings.rx.pending ∧
      t.env.rings.rx.consumer = s.env.rings.rx.consumer)
    ⟨List.prefix_refl _, rfl⟩ ⟨added, kicked.consumer_rx⟩ fun same => same

/-- A batch that succeeds takes as many descriptors off the receive ring as it says, the oldest ones, and at least one
when there is any. What it leaves stays in front of what comes in meanwhile. -/
theorem processBatch_received (confined : e.Confined l held) (orderly : Orderly l (held s.env.world) s)
    {received : Nat} (batch : e.processBatch s = (.ok received, t)) :
    s.env.rings.rx.pending.drop received <+: t.env.rings.rx.pending ∧
      t.env.rings.rx.consumer = s.env.rings.rx.consumer + .ofNat received ∧
      (e.batchCount ≠ 0 → received = 0 → s.env.rings.rx.pending = []) := by
  obtain ⟨passes, custody, some⟩ := work_passes confined orderly
  obtain ⟨added, same⟩ := reclaim_received confined (work_orderly confined orderly)
  obtain ⟨called, rfl⟩ := processBatch_eq_ok_iff.mp batch
  rw [called] at added same
  refine ⟨?_, same.trans passes.released, fun count none => some count (List.length_eq_zero_iff.mp none)⟩
  rw [← passes.left, List.drop_left]
  exact added

end Engine

end XdpEcho
