import XdpEcho.Proofs.Simulator.Runs

/-!
# What is sent of a batch

A batch that has been judged is sent as far as the transmit ring has room. The view of the ring may be behind, and
looks at the cursor of the other side only when it knows of too few slots, so what it counts as room is compared here
with the slots that are free.

* `sent_eq`, `returned_eq` — what is sent is the first forwarded packets, and what is given back is all the others.
* `Admits` — what becomes of a judged batch, said without the view of the ring.
* `Orderly.admits` — settling a drained batch does this, whatever the verdicts are.
* `Engine.admission_maximal` — it holds in every state of every run.
-/

namespace XdpEcho

/-! ### The packets that are sent -/

/-- The forwarded packets of a judged batch, in the order in which they were received. -/
def forwarded (judged : List (Descriptor × Verdict)) : List Descriptor :=
  (judged.filter (·.2 = .forward)).map (·.1)

@[simp] theorem forwarded_drop (d : Descriptor) (rest : List (Descriptor × Verdict)) :
    forwarded ((d, .drop) :: rest) = forwarded rest := by
  simp [forwarded]

@[simp] theorem forwarded_forward (d : Descriptor) (rest : List (Descriptor × Verdict)) :
    forwarded ((d, .forward) :: rest) = d :: forwarded rest := by
  simp [forwarded]

/-- The first forwarded packets are sent, as many as there is room for. -/
theorem sent_eq (room : Nat) (judged : List (Descriptor × Verdict)) :
    (triage room judged).1 = (forwarded judged).take room := by
  induction judged generalizing room with
  | nil => simp [forwarded]
  | cons first rest ih =>
    obtain ⟨d, verdict⟩ := first
    cases verdict with
    | drop => rw [triage_drop, forwarded_drop, ih]
    | forward =>
      cases room with
      | zero => rw [triage_forward_full, ih, List.take_zero, List.take_zero]
      | succ room => rw [triage_forward, forwarded_forward, List.take_succ_cons, ih]

/-- What is sent is part of the batch. -/
theorem sent_subset (room : Nat) (judged : List (Descriptor × Verdict)) :
    (triage room judged).1 ⊆ judged.map (·.1) :=
  fun _ mem => (triage_perm room judged).subset (List.mem_append_left _ mem)

/-- All packets that are not sent are given back, in the order in which they were received. -/
theorem returned_eq {judged : List (Descriptor × Verdict)} (nodup : (judged.map (·.1)).Nodup) (room : Nat) :
    (triage room judged).2 = (judged.map (·.1)).filter (· ∉ (triage room judged).1) := by
  induction judged generalizing room with
  | nil => simp
  | cons first rest ih =>
    obtain ⟨d, verdict⟩ := first
    rw [List.map_cons] at nodup
    obtain ⟨fresh, distinct⟩ := List.nodup_cons.mp nodup
    -- A packet that is given back is not among the packets after it that are sent.
    have kept (room : Nat) : d ∉ (triage room rest).1 := fun mem => fresh (sent_subset room rest mem)
    cases verdict with
    | drop =>
      rw [triage_drop, List.map_cons, List.filter_cons_of_pos (by simpa using kept room), ih distinct]
    | forward =>
      cases room with
      | zero =>
        rw [triage_forward_full, List.map_cons, List.filter_cons_of_pos (by simpa using kept 0), ih distinct]
      | succ room =>
        rw [triage_forward, List.map_cons, List.filter_cons_of_neg (by simp), ih distinct]
        refine List.filter_congr fun other mem => ?_
        have apart : other ≠ d := fun eq => fresh (eq ▸ mem)
        simp [apart]

/-- What is sent of a batch without repetitions, and what is given back. -/
theorem split_eq {descs sent returned : List Descriptor} {verdicts : List Verdict} {room : Nat} (nodup : descs.Nodup)
    (same : verdicts.length = descs.length) (split : triage room (descs.zip verdicts) = (sent, returned)) :
    sent.length = min (verdicts.count .forward) room ∧ sent <+: forwarded (descs.zip verdicts) ∧
      returned = descs.filter (· ∉ sent) := by
  have judged : (descs.zip verdicts).map (·.1) = descs := List.map_fst_zip (Nat.le_of_eq same.symm)
  refine ⟨?_, ?_, ?_⟩
  · have length := length_sent room (descs.zip verdicts)
    rwa [split, forwards, List.map_snd_zip (Nat.le_of_eq same), Nat.min_comm] at length
  · have first : sent = (forwarded (descs.zip verdicts)).take room := by rw [← sent_eq, split]
    rw [first]
    exact List.take_prefix _ _
  · have others := returned_eq (judged.symm ▸ nodup) room
    rwa [split, judged] at others

/-! ### A judged batch -/

variable {σ ω : Type} {l : Layout} {c : Custody} {s t : EngineState σ ω}

/-- A batch with the given verdicts has taken the engine from one state to another. The forwarded packets have been
sent as far as the transmit ring has slots that hold nothing, and all other frames have been given back. -/
structure Admits (l : Layout) (descs : List Descriptor) (verdicts : List Verdict) (s t : EngineState σ ω)
    (sent returned : List Descriptor) : Prop where
  /-- Nothing but a full ring keeps a forwarded packet from being sent. -/
  maximal : sent.length = min (verdicts.count .forward) (s.env.rings.tx.slots.size - s.env.rings.tx.pending.length)
  /-- The oldest forwarded packets are sent. -/
  first : sent = (forwarded (descs.zip verdicts)).take sent.length
  /-- The frames of all other packets are given back. -/
  others : returned = descs.filter (· ∉ sent)
  /-- Each packet is sent as it was received, with its flags cleared, behind the packets that are there already. -/
  queued : t.env.rings.tx.pending = s.env.rings.tx.pending ++ sent.map fun d => ⟨d.addr, d.len, 0⟩
  producer : t.env.rings.tx.producer = s.env.rings.tx.producer + .ofNat sent.length
  consumer : t.env.rings.tx.consumer = s.env.rings.tx.consumer
  /-- Frames are given back one after the other, and none of them is refused. -/
  pool : t.pool = s.pool.releaseAll (returned.map (·.addr))
  stack : t.pool.stack = ((returned.map (·.addr)).map l.frameBase).reverse ++ s.pool.stack
  rejected : t.pool.rejected = s.pool.rejected
  outstandingTx : t.outstandingTx.toNat = s.outstandingTx.toNat + sent.length
  dropped : t.env.stats.dropped = s.env.stats.dropped + .ofNat (descs.length - sent.length)
  /-- The slots of the whole batch are released on the receive ring, and no others. -/
  released : t.env.rings.rx = s.env.rings.rx.consume (.ofNat descs.length)
  left : t.env.rings.rx.pending = s.env.rings.rx.pending.drop descs.length
  next : t.rx.next = s.rx.next + .ofNat descs.length

namespace Orderly

/-- No packet is received twice. -/
theorem nodup_received (orderly : Orderly l c s) : s.env.rings.rx.pending.Nodup := by
  have shared := orderly.nodup_shared
  rw [List.map_append, List.map_append] at shared
  have received := (List.nodup_append.mp (List.nodup_append.mp shared).2.1).1
  exact (received.of_map _).of_map _

/-- Settling sends as much of a drained batch as there is room for. -/
theorem admits (orderly : Orderly l c s) {descs : List Descriptor} {verdicts : List Verdict}
    (drained : descs <+: s.env.rings.rx.pending) (known : descs.length ≤ (s.rx.limit - s.rx.next).toNat)
    (same : verdicts.length = descs.length) :
    ∃ sent returned, Admits l descs verdicts s (Engine.settle descs verdicts s) sent returned := by
  obtain ⟨sent, returned, split⟩ : ∃ sent returned,
    triage (s.env.rings.tx.freeSlots 0) (descs.zip verdicts) = (sent, returned) := ⟨_, _, rfl⟩
  obtain ⟨rx, tx, settled, tracks, -, left, pending⟩ := Engine.settle_eq orderly.rx orderly.tx known same split
  have outstanding := (orderly.settle drained known same).outstanding
  have perm := perm_of_triage same split
  have nodup : descs.Nodup := orderly.nodup_received.sublist drained.sublist
  obtain ⟨length, first, others⟩ := split_eq nodup same split
  obtain ⟨later, received⟩ := drained
  have restacked := orderly.restacked received perm
  have total := perm.length_eq
  rw [List.length_append] at total
  rw [settled] at outstanding ⊢
  refine ⟨sent, returned, ?_, List.prefix_iff_eq_take.mp first, others, pending, ?_, Ring.consumer_push _ _, rfl,
    restacked.stack, restacked.rejected, ?_, ?_, rfl, left, ?_⟩
  · rw [length, Ring.freeSlots, Ring.length_pending, Nat.sub_zero]
  · rw [Ring.push, Ring.producer_publish, Ring.producer_writeFrom, List.length_map]
  · have before := orderly.outstanding
    simp only [pending, List.length_append, List.length_map] at outstanding ⊢
    omega
  · have : returned.length = descs.length - sent.length := by omega
    rw [this]
    rfl
  · rw [tracks.next, Ring.consumer_consume, orderly.rx.next]

end Orderly

/-! ### Every run -/

namespace Engine

variable {e : Engine σ ω} {held : ω → Custody}

/-- A packet that is to be forwarded is dropped only when the transmit ring is full. Take any processor, any four rings
with nothing on them and their cursors anywhere, and any order of batches and lawful steps of the other side before. In
every state that this leads to, offering frames and judging the next batch leave the receive ring, the transmit ring and
the count of outstanding frames as they are, and then, whatever the verdicts on the packets are, as many forwarded
packets are sent as the transmit ring has free slots, however old the view of it is. They are the oldest ones, they go
behind what is pending there, and all other frames of the batch are given back in the order of arrival and counted as
dropped. The batch ends with the reclaiming that follows. -/
theorem admission_maximal (confined : e.Confined l held) (reachable : e.Reachable l held s) {descs : List Descriptor}
    (drained : e.drain s = (descs, t)) :
    ∃ verdicts u, e.judgeAll descs t.replenish = (verdicts, u) ∧ verdicts.length = descs.length ∧
      (descs ≠ [] → e.work s = (descs, settle descs verdicts u)) ∧
      u.env.rings.rx = s.env.rings.rx ∧ u.rx.next = s.rx.next ∧ u.env.rings.tx = s.env.rings.tx ∧ u.tx = s.tx ∧
      u.outstandingTx = s.outstandingTx ∧
      (∀ verdicts' : List Verdict, verdicts'.length = descs.length →
        ∃ sent returned, Admits l descs verdicts' u (settle descs verdicts' u) sent returned) ∧
      (e.processBatch s).2 = (e.reclaim (e.work s).2).2 := by
  have orderly := reachable.orderly confined
  obtain ⟨rx, rfl, afterDrain, next, oldest, known⟩ := orderly.drain drained
  obtain ⟨verdicts, processorState, env, judged, length, same⟩ :=
    judgeAll_eq confined.keepsPort (fun _ _ => rfl) (fun _ _ _ => rfl) descs
      ({ s with rx } : EngineState σ ω).replenish
  obtain ⟨rings, custody⟩ := Prod.mk.inj same
  have settling := afterDrain.replenish.around processorState rings
  have received : env.rings.rx = s.env.rings.rx := congrArg (·.rx) rings
  refine ⟨verdicts, _, judged, length, ?_, received, next, congrArg (·.tx) rings, rfl, rfl, ?_,
    snd_processBatch e s⟩
  · intro some
    rw [work_eq_of_drain drained some, process, judged]
  · intro verdicts' length'
    refine settling.admits ?_ known length'
    rwa [← received] at oldest

/-- Two packets are to be forwarded and the transmit ring has a single slot, so the first one is sent and the frame of
the second one goes back on the stack. -/
theorem admission_maximal_for_one_slot :
    let l : Layout := ⟨2048, 4, by decide, by decide⟩
    let e : Engine Unit Simulator :=
      ⟨⟨"mirror", fun packet state env => (.forward, packet, state, env)⟩, Simulator.endpoint false, 64, .wait,
        .ofMilliseconds 1000⟩
    let s₀ := e.start l () { Env.blank Simulator.idle with
      rings := ⟨.blank 4 0xffffffff, .blank 1 5, .blank 2 0xffffffff, .blank 1 7⟩, umem := .zeroed l }
    let s := [Move.deliver [7], .deliver [8, 9]].foldl (e.act l) s₀
    e.drain s = ([⟨6144, 1, 0⟩, ⟨4096, 2, 0⟩], (e.drain s).2) ∧
      ∃ verdicts u, e.work s = ([⟨6144, 1, 0⟩, ⟨4096, 2, 0⟩], settle [⟨6144, 1, 0⟩, ⟨4096, 2, 0⟩] verdicts u) ∧
        Admits l [⟨6144, 1, 0⟩, ⟨4096, 2, 0⟩] [.forward, .forward] u
          (settle [⟨6144, 1, 0⟩, ⟨4096, 2, 0⟩] [.forward, .forward] u) [⟨6144, 1, 0⟩] [⟨4096, 2, 0⟩] ∧
        (e.processBatch s).2 = (e.reclaim (e.work s).2).2 := by
  intro l e s₀ s
  have drives : e.DrivesSimulator :=
    ⟨⟨false, rfl⟩, fun _ _ _ => rfl, fun _ _ _ => rfl, fun _ _ _ => rfl⟩
  have start : e.Simulated l s₀ :=
    .start () ⟨⟨⟨4, 0xffffffff, rfl⟩, ⟨1, 5, rfl⟩, ⟨2, 0xffffffff, rfl⟩, ⟨1, 7, rfl⟩⟩, Area.size_zeroed l, rfl⟩
  have simulated : e.Simulated l s := (start.act (.deliver [7])).act (.deliver [8, 9])
  have received : (e.drain s).1 = [⟨6144, 1, 0⟩, ⟨4096, 2, 0⟩] := by decide +kernel
  have drained : e.drain s = ([⟨6144, 1, 0⟩, ⟨4096, 2, 0⟩], (e.drain s).2) := by
    rw [← received]
  obtain ⟨verdicts, u, -, -, worked, -, -, tx, -, -, admits, batch⟩ :=
    admission_maximal drives.confined (simulated.reachable drives) drained
  obtain ⟨sent, returned, admitted⟩ := admits [.forward, .forward] rfl
  have free : s.env.rings.tx.slots.size - s.env.rings.tx.pending.length = 1 := by decide +kernel
  have one : sent.length = 1 := by
    rw [admitted.maximal, tx, free]
    rfl
  have first := admitted.first
  rw [one] at first
  have others := admitted.others
  rw [first] at others
  refine ⟨drained, verdicts, u, worked (List.cons_ne_nil _ _), ?_, batch⟩
  rw [first, others] at admitted
  exact admitted

end Engine

end XdpEcho
