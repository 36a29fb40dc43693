import XdpEcho.Proofs.Simulator.Runs

/-!
# An empty fill ring stays empty

Frames are offered only by batches that have received something. When every frame has come home before the next packet
arrives, what is on the fill ring then decides whether there is a next packet: a fill ring that has run empty is never
filled again, although the pool holds every frame.

* `Engine.reception_goes_on_iff` — when nothing is received, queued or in flight, the next packet is received exactly
  when a frame is left on the fill ring, and otherwise no packet is ever received again.
* `Engine.reception_ends` — a run that gets there.
-/

namespace XdpEcho

namespace Engine

variable {σ : Type} {l : Layout} {e : Engine σ Simulator} {s : EngineState σ Simulator}

/-- Nothing is received, queued or in flight. -/
structure Idle (s : EngineState σ Simulator) : Prop where
  rx : s.env.rings.rx.pending = []
  tx : s.env.rings.tx.pending = []
  inFlight : s.env.world.inFlight = []

theorem Idle.processBatch (drives : e.DrivesSimulator) (rx : s.rx.Tracks s.env.rings.rx) (idle : Idle s) :
    ∃ t, e.processBatch s = (.ok 0, t) ∧ Idle t ∧ t.env.rings.fill = s.env.rings.fill := by
  obtain ⟨t, batch, rx', tx', fill', -, inFlight'⟩ := processBatch_of_rx_empty drives rx idle.rx
  exact ⟨t, batch, ⟨rx' ▸ idle.rx, tx' ▸ idle.tx, inFlight'.trans idle.inFlight⟩, fill'⟩

/-- Whatever happens next, an idle engine whose fill ring is empty stays so. -/
theorem Idle.act (drives : e.DrivesSimulator) (simulated : e.Simulated l s) (idle : Idle s)
    (starved : s.env.rings.fill.pending = []) (move : Move) :
    Idle (e.act l s move) ∧ (e.act l s move).env.rings.fill.pending = [] := by
  have orderly := simulated.orderly drives
  cases move with
  | deliver packet =>
    rw [Engine.act, Simulator.deliver_eq l packet orderly.fill.lawful orderly.rx.lawful, starved]
    exact ⟨⟨idle.rx, idle.tx, idle.inFlight⟩, starved⟩
  | transmit =>
    rw [Engine.act, Simulator.transmit_eq orderly.tx.lawful]
    exact ⟨⟨idle.rx, Ring.pending_consume_all _, by simp [idle.inFlight, idle.tx]⟩, starved⟩
  | complete most =>
    rw [Engine.act, Simulator.complete_eq most orderly.completion.lawful orderly.length_tx_lt]
    exact ⟨⟨idle.rx, idle.tx, by simp [idle.inFlight]⟩, starved⟩
  | batch =>
    obtain ⟨t, batch, idle', fill⟩ := idle.processBatch drives orderly.rx
    rw [Engine.act, batch]
    exact ⟨idle', fill ▸ starved⟩

/-- An idle engine whose fill ring is empty never receives a packet again. -/
theorem Idle.never_receives (drives : e.DrivesSimulator) (simulated : e.Simulated l s) (idle : Idle s)
    (starved : s.env.rings.fill.pending = []) (moves : List Move) (packet : Bytes) :
    (Simulator.deliver l packet (moves.foldl (e.act l) s).env).1 = none := by
  induction moves generalizing s with
  | nil =>
    have orderly := simulated.orderly drives
    rw [List.foldl_nil, Simulator.deliver_eq l packet orderly.fill.lawful orderly.rx.lawful, starved]
  | cons move rest ih =>
    obtain ⟨idle', starved'⟩ := idle.act drives simulated starved move
    exact ih (simulated.act move) idle' starved'

/-- An idle engine receives the next packet exactly when a frame is offered to it. -/
theorem Idle.receives_iff (drives : e.DrivesSimulator) (simulated : e.Simulated l s) (idle : Idle s) {packet : Bytes}
    (fits : packet.length ≤ l.frameSize.toNat) :
    (Simulator.deliver l packet s.env).1.isSome ↔ s.env.rings.fill.pending ≠ [] := by
  have orderly := simulated.orderly drives
  rw [Simulator.deliver_eq l packet orderly.fill.lawful orderly.rx.lawful]
  cases oldest : s.env.rings.fill.pending with
  | nil => simp
  | cons addr rest =>
    have room : s.env.rings.rx.pendingCount.toNat < s.env.rings.rx.slots.size := by
      rw [Ring.pending_eq_nil_iff.mp idle.rx]
      exact orderly.rx.lawful.sized.slots_size_pos
    have inside : s.env.umem.Contains addr packet.length :=
      orderly.contains_offered (simulated.size_umem drives) (oldest ▸ List.mem_cons_self) fits
    simp [room, fits, inside]

/-- When nothing is received, queued or in flight, two more batches only collect: they succeed, offer no frame, and
leave the fill ring as it was. So the next packet is received exactly when a frame is left on the fill ring, that is
when the free stack and the completion ring do not hold all of them. Otherwise reception has ended for good: no packet
is received after any further moves. -/
theorem reception_goes_on_iff (drives : e.DrivesSimulator) (simulated : e.Simulated l s) (idle : Idle s) :
    ∃ t, e.processBatch s = (.ok 0, t) ∧ ∃ u, e.processBatch t = (.ok 0, u) ∧
      u.env.rings.fill.pending = s.env.rings.fill.pending ∧
      (s.env.rings.fill.pending ≠ [] ↔
        s.pool.freeCount + s.env.rings.completion.pending.length < s.pool.capacity) ∧
      (∀ packet : Bytes, packet.length ≤ l.frameSize.toNat →
        ((Simulator.deliver l packet u.env).1.isSome ↔ s.env.rings.fill.pending ≠ [])) ∧
      (s.env.rings.fill.pending = [] → ∀ (moves : List Move) (packet : Bytes),
        (Simulator.deliver l packet (moves.foldl (e.act l) s).env).1 = none) := by
  have orderly := simulated.orderly drives
  obtain ⟨t, first, idleT, fillT⟩ := idle.processBatch drives orderly.rx
  have simulatedT : e.Simulated l t := by
    have after := simulated.act .batch
    rwa [Engine.act, first] at after
  obtain ⟨u, second, idleU, fillU⟩ := idleT.processBatch drives (simulatedT.orderly drives).rx
  have simulatedU : e.Simulated l u := by
    have after := simulatedT.act .batch
    rwa [Engine.act, second] at after
  refine ⟨t, first, u, second, by rw [fillU, fillT], ?_, ?_, ?_⟩
  · have total := orderly.length_whereabouts
    simp only [EngineState.whereabouts, Simulator.custody, idle.rx, idle.tx, idle.inFlight, List.map_nil,
      List.append_nil, List.length_append] at total
    rw [FramePool.freeCount, FramePool.capacity, orderly.layout, ← List.length_pos_iff]
    omega
  · intro packet fits
    rw [idleU.receives_iff drives simulatedU fits, fillU, fillT]
  · intro starved moves packet
    exact idle.never_receives drives simulated starved moves packet

/-- One frame and one packet that is not answered: the batch that handles it finds the stack empty when it offers
frames, and gives the frame back afterwards. The pool is full then, and the next packet is lost, however many batches
come before it. -/
theorem reception_ends :
    let l : Layout := ⟨2048, 1, by decide, by decide⟩
    let e : Engine Unit Simulator := ⟨.icmp, Simulator.endpoint false, 64, .wait, .ofMilliseconds 1000⟩
    let s := [Move.deliver [], .batch].foldl (e.act l) (e.start l () { Env.blank Simulator.idle with
      rings := ⟨.blank 2 0, .blank 2 0, .blank 2 0, .blank 2 0⟩, umem := .zeroed l })
    Idle s ∧ s.pool.freeCount = s.pool.capacity ∧
      (∃ t, e.processBatch s = (.ok 0, t) ∧ ∃ u, e.processBatch t = (.ok 0, u) ∧
        ∀ packet : Bytes, packet.length ≤ 2048 → (Simulator.deliver l packet u.env).1 = none) ∧
      ∀ (moves : List Move) (packet : Bytes),
        (Simulator.deliver l packet (moves.foldl (e.act l) s).env).1 = none := by
  intro l e s
  have drives : e.DrivesSimulator := drivesSimulator_of_responder rfl rfl
  have opened : e.Simulated l (e.start l () { Env.blank Simulator.idle with
      rings := ⟨.blank 2 0, .blank 2 0, .blank 2 0, .blank 2 0⟩, umem := .zeroed l }) :=
    .start () ⟨⟨⟨2, 0, rfl⟩, ⟨2, 0, rfl⟩, ⟨2, 0, rfl⟩, ⟨2, 0, rfl⟩⟩, Area.size_zeroed l, rfl⟩
  have simulated : e.Simulated l s := (opened.act (.deliver [])).act .batch
  have idle : Idle s := ⟨by decide +kernel, by decide +kernel, by decide +kernel⟩
  have starved : s.env.rings.fill.pending = [] := by decide +kernel
  obtain ⟨t, first, u, second, -, -, next, never⟩ := reception_goes_on_iff drives simulated idle
  refine ⟨idle, by decide +kernel, ⟨t, first, u, second, fun packet fits => ?_⟩, never starved⟩
  have lost := mt (next packet fits).mp (not_not_intro starved)
  rwa [Bool.not_eq_true, Option.isSome_eq_false_iff, Option.isNone_iff_eq_none] at lost

end Engine

end XdpEcho
