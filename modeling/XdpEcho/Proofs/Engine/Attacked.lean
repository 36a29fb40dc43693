import XdpEcho.Proofs.Engine.Phases
import XdpEcho.Proofs.Umem.Area

/-!
# An other side that does anything

The other side of the rings need not be a kernel that keeps to its part. Here it may put anything into the memory that
both sides share, at any time between two batches and whenever it is called: any cursors, any addresses and descriptors
in the slots, any bytes in the frames. The only thing that it cannot do is to make the memory larger or smaller.

* `Engine.Attacked` — the states that an engine can get to.
* `Engine.Safe` — the invariant, which says nothing about what is on the rings.
* `Engine.Handled`, `Engine.work_handled` — what the work on a batch does in such a state.
* `Engine.Reclaims`, `Engine.reclaim_reclaims` — what reclaiming does, which ends the batch.
* `Engine.Handled.balance` — the frames that leave the stack and those that come back.
* `Engine.safe_under_attack` — nothing outside the shared memory is touched, and every frame that is taken in is sent or
  given back.
-/

namespace XdpEcho

variable {σ ω : Type} {l : Layout} {s t : EngineState σ ω}

/-! ### Shared memory -/

/-- The sizes of the memory that both sides share: the slots of the four rings, and the bytes of the frames. -/
def Env.sizes (env : Env ω) : Nat × Nat × Nat × Nat × Nat :=
  (env.rings.rx.slots.size, env.rings.tx.slots.size, env.rings.fill.slots.size, env.rings.completion.slots.size,
    env.umem.size)

/-- The rings have as many slots as a power of two, and the frames are as the layout says. What is in them, and where the
cursors are, is not said. -/
structure Mapped (l : Layout) (env : Env ω) : Prop where
  rx : env.rings.rx.Sized
  tx : env.rings.tx.Sized
  fill : env.rings.fill.Sized
  completion : env.rings.completion.Sized
  umem : env.umem.size = l.capacity * l.frameSize.toNat

theorem Mapped.of_sizes {env env' : Env ω} (mapped : Mapped l env) (same : env'.sizes = env.sizes) : Mapped l env' := by
  obtain ⟨rx, same⟩ := Prod.mk.inj same
  obtain ⟨tx, same⟩ := Prod.mk.inj same
  obtain ⟨fill, same⟩ := Prod.mk.inj same
  obtain ⟨completion, umem⟩ := Prod.mk.inj same
  refine ⟨?_, ?_, ?_, ?_, umem.trans mapped.umem⟩
  · rw [Ring.Sized, rx]
    exact mapped.rx
  · rw [Ring.Sized, tx]
    exact mapped.tx
  · rw [Ring.Sized, fill]
    exact mapped.fill
  · rw [Ring.Sized, completion]
    exact mapped.completion

/-- Nothing has been written but inside of the packets of the given descriptors that lie inside the memory. -/
def Area.WrittenWithin (descs : List Descriptor) (a b : Area) : Prop :=
  ∀ (addr : UInt64) (len : Nat),
    (∀ d ∈ descs, a.Contains d.addr d.len.toNat →
      addr.toNat + len ≤ d.addr.toNat ∨ d.addr.toNat + d.len.toNat ≤ addr.toNat) →
    b.read? addr len = a.read? addr len

/-! ### The phases, whatever is on the rings -/

/-- The top of the free stack goes on the ring, behind what the producer has put there before, and the view moves behind
it. The reservation always succeeds, for room was asked for before. -/
theorem offer_eq_of_sound {pool : FramePool} (sound : pool.Sound) (most first second : UInt32) (view : Producer)
    (ring : Ring UInt64) :
    ∃ n view' pool', offer most first second view pool ring =
        ⟨.ofNat (pool.stack.take n).length, view', pool',
          (ring.writeFrom view.next (pool.stack.take n)).publish (.ofNat (pool.stack.take n).length)⟩ ∧
      view'.next = view.next + .ofNat (pool.stack.take n).length ∧ pool.Restacked pool' (pool.stack.drop n) := by
  obtain ⟨limit, asked⟩ := view.freeEntries_eq first most
  obtain ⟨n, count⟩ : ∃ n, (min (limit - view.next) most).toNat = n := ⟨_, rfl⟩
  obtain ⟨pool', taken, restacked⟩ := sound.allocateUpTo n
  have le : (pool.stack.take n).length ≤ n := List.length_take_le _ _
  have small : n < 2 ^ 32 := count ▸ UInt32.toNat_lt _
  have toNat : (UInt32.ofNat (pool.stack.take n).length).toNat = (pool.stack.take n).length := by
    rw [UInt32.toNat_ofNat']
    omega
  simp only [offer, asked, count, taken]
  split
  next none =>
    rw [none] at toNat
    have nothing := List.length_eq_zero_iff.mp toNat.symm
    refine ⟨n, { view with limit }, pool', ?_, ?_, restacked⟩
    · rw [nothing]
      exact congrArg (Offer.mk 0 { view with limit } pool') ring.publish_zero.symm
    · rw [nothing]
      exact (UInt32.add_zero _).symm
  next =>
    have known := pool.ofNat_length_allocateUpTo_le (limit - view.next) most
    rw [count, taken] at known
    have reserved := Producer.reserve_eq_of_le (p := { view with limit }) known second
    simp only [Producer.reserveWithin, reserved]
    exact ⟨n, _, pool', rfl, rfl, restacked⟩

/-- The slots that are granted are known to the producer, whatever it has found in the cursor, so they are reserved
without another look. -/
theorem reserve_granted (view : Producer) (consumer wanted : UInt32) :
    ∃ free limit, (if wanted = 0 then (0, view) else view.freeEntries consumer wanted) = (free, { view with limit }) ∧
      Producer.reserve { view with limit } consumer (min free wanted) =
        (some view.next, { view with limit, next := view.next + min free wanted }) := by
  split
  next none =>
    refine ⟨0, view.limit, rfl, Producer.reserve_eq_of_le ?_ consumer⟩
    rw [UInt32.le_iff_toNat_le, UInt32.toNat_min, UInt32.toNat_zero, Nat.zero_min]
    exact Nat.zero_le _
  next =>
    obtain ⟨limit, asked⟩ := view.freeEntries_eq consumer wanted
    refine ⟨_, limit, asked, Producer.reserve_eq_of_le ?_ consumer⟩
    rw [UInt32.le_iff_toNat_le, UInt32.toNat_min]
    exact Nat.min_le_left _ _

namespace Engine

variable {e : Engine σ ω}

/-- How many packets of a judged batch are put on the transmit ring, whatever is found in its cursor. -/
def admitted (verdicts : List Verdict) (s : EngineState σ ω) : Nat :=
  let forward := UInt32.ofNat (verdicts.count .forward)
  (min (if forward = 0 then (0, s.tx) else s.tx.freeEntries s.env.rings.tx.consumer forward).1 forward).toNat

/-- Sent descriptors go on the transmit ring, behind what the producer has put there before, the other frames go to the
pool, and both are counted. -/
theorem exists_settle (descs : List Descriptor) (verdicts : List Verdict) (s : EngineState σ ω) :
    ∃ sent returned, triage (admitted verdicts s) (descs.zip verdicts) = (sent, returned) ∧
      (settle descs verdicts s).pool = s.pool.releaseAll (returned.map (·.addr)) ∧
      (settle descs verdicts s).env.rings.tx =
        (s.env.rings.tx.writeFrom s.tx.next (sent.map Descriptor.outgoing)).publish (.ofNat sent.length) ∧
      (settle descs verdicts s).env.stats =
        ((s.env.stats.recordRx (UInt32.ofNat descs.length).toUInt64 (totalLength descs)).recordTx
          (UInt32.ofNat sent.length).toUInt64 (totalLength sent)).recordDropped (.ofNat returned.length) ∧
      (settle descs verdicts s).env.sizes = s.env.sizes := by
  obtain ⟨free, limit, asked, reserved⟩ :=
    reserve_granted s.tx s.env.rings.tx.consumer (.ofNat (verdicts.count .forward))
  obtain ⟨sent, returned, split⟩ : ∃ sent returned,
    triage (min free (.ofNat (verdicts.count .forward))).toNat (descs.zip verdicts) = (sent, returned) :=
      ⟨_, _, rfl⟩
  refine ⟨sent, returned, by simp only [admitted, asked, split], ?_⟩
  simp only [settle, asked, reserved, split, Option.getD_some, Env.sizes]
  refine ⟨trivial, trivial, trivial, ?_⟩
  simp [Consumer.release]

/-- The producer goes on behind the descriptors that were sent. -/
theorem next_settle {descs sent returned : List Descriptor} {verdicts : List Verdict}
    (same : verdicts.length = descs.length) (few : descs.length < 2 ^ 32)
    (split : triage (admitted verdicts s) (descs.zip verdicts) = (sent, returned)) :
    (settle descs verdicts s).tx.next = s.tx.next + .ofNat sent.length := by
  obtain ⟨free, limit, asked, reserved⟩ :=
    reserve_granted s.tx s.env.rings.tx.consumer (.ofNat (verdicts.count .forward))
  have room : admitted verdicts s = (min free (.ofNat (verdicts.count .forward))).toNat := by
    simp only [admitted, asked]
  have enough : admitted verdicts s ≤ verdicts.count .forward := by
    have le := List.count_le_length (a := Verdict.forward) (l := verdicts)
    rw [room, UInt32.toNat_min, UInt32.toNat_ofNat']
    omega
  have length : sent.length = admitted verdicts s := by
    have all := length_sent (admitted verdicts s) (descs.zip verdicts)
    rw [split, forwards, List.map_snd_zip (Nat.le_of_eq same)] at all
    exact all.trans (Nat.min_eq_left enough)
  rw [length, room, UInt32.ofNat_toNat]
  simp only [settle, asked, reserved]

theorem judge_within (keeps : e.processor.Keeps (·.umem)) (d : Descriptor) (s : EngineState σ ω) :
    (e.judge d s).2.env.umem.size = s.env.umem.size ∧
      ((e.judge d s).1 = .forward → s.env.umem.Contains d.addr d.len.toNat) ∧
      s.env.umem.WrittenWithin [d] (e.judge d s).2.env.umem := by
  rw [judge]
  by_cases inside : s.env.umem.Contains d.addr d.len.toNat
  · obtain ⟨packet, found⟩ : ∃ packet, s.env.umem.read? d.addr d.len.toNat = some packet := ⟨_, Area.read?_eq inside⟩
    obtain ⟨verdict, after, processorState, env, decided⟩ : ∃ verdict after processorState env,
      e.processor.process packet s.processorState s.env = (verdict, after, processorState, env) := ⟨_, _, _, _, rfl⟩
    have length := Area.length_of_read? found
    have kept : env.umem = s.env.umem := by
      have same := keeps packet s.processorState s.env
      rwa [decided] at same
    simp only [found, decided, kept]
    refine ⟨Area.size_write _ _ _, fun _ => inside, fun addr len apart => Area.read?_write_apart ?_⟩
    have here := apart d List.mem_cons_self inside
    have fits := List.length_take_le packet.length after
    omega
  · rw [Area.read?_eq_none_iff.mpr inside]
    refine ⟨rfl, fun forward => ?_, fun _ _ _ => rfl⟩
    cases forward

/-- Only packets that lie inside the memory are changed, and only they are forwarded. -/
theorem judgeAll_within (keeps : e.processor.Keeps (·.umem)) (descs : List Descriptor) (s : EngineState σ ω) :
    (e.judgeAll descs s).2.env.umem.size = s.env.umem.size ∧
      (∀ judged ∈ descs.zip (e.judgeAll descs s).1, judged.2 = .forward →
        s.env.umem.Contains judged.1.addr judged.1.len.toNat) ∧
      s.env.umem.WrittenWithin descs (e.judgeAll descs s).2.env.umem := by
  induction descs generalizing s with
  | nil => exact ⟨rfl, nofun, fun _ _ _ => rfl⟩
  | cons d rest ih =>
    obtain ⟨size, inside, within⟩ := judge_within keeps d s
    obtain ⟨size', inside', within'⟩ := ih (e.judge d s).2
    rw [judgeAll]
    refine ⟨size'.trans size, List.forall_mem_cons.mpr ⟨inside, fun judged mem forward => ?_⟩, fun addr len apart => ?_⟩
    · have contains := inside' judged mem forward
      rwa [Area.Contains, size] at contains
    · refine (within' addr len fun other mem contains => ?_).trans (within addr len fun other mem contains => ?_)
      · rw [Area.Contains, size] at contains
        exact apart other (List.mem_cons_of_mem _ mem) contains
      · obtain rfl := List.mem_singleton.mp mem
        exact apart other List.mem_cons_self contains

theorem exists_refill (sound : s.pool.Sound) (most : UInt32) :
    ∃ n, (s.refill most).2.env.rings.fill = (s.env.rings.fill.writeFrom s.fill.next (s.pool.stack.take n)).publish
        (.ofNat (s.pool.stack.take n).length) ∧
      (s.refill most).2.fill.next = s.fill.next + .ofNat (s.pool.stack.take n).length ∧
      s.pool.Restacked (s.refill most).2.pool (s.pool.stack.drop n) ∧ (s.refill most).2.env.sizes = s.env.sizes := by
  obtain ⟨n, fill, pool, offered, next, restacked⟩ := offer_eq_of_sound sound most s.env.rings.fill.consumer
    s.env.rings.fill.consumer s.fill s.env.rings.fill
  simp only [EngineState.refill, offered]
  refine ⟨n, rfl, next, restacked, ?_⟩
  simp [Env.sizes]

theorem exists_drain (e : Engine σ ω) (s : EngineState σ ω) :
    ∃ count limit, e.drain s = (s.env.rings.rx.readFrom s.rx.next count, { s with rx := { s.rx with limit } }) ∧
      count ≤ e.batchCount.toNat := by
  obtain ⟨available, limit, asked, le⟩ := s.rx.peek_eq s.env.rings.rx.producer e.batchCount
  exact ⟨available.toNat, limit, by simp only [drain, asked], le⟩

/-! ### What becomes of a batch -/

/-- What the work on a batch has done. The received descriptors are what was in the slots behind those released before,
and not more than a batch holds, and these slots are released. Each of them has the verdict of the processor, and is
either sent, under the address and with the length that it had, or its frame is given to the pool. Only those that lie
inside the memory are sent, and only inside these bytes have changed. The offered frames are the top of the free stack,
and they were taken off it. What is sent and what is offered goes behind what was there before, and the next batch goes
on behind it. -/
structure Handled (e : Engine σ ω) (s t : EngineState σ ω) (received : List Descriptor) (verdicts : List Verdict)
    (sent returned : List Descriptor) (offered : List UInt64) : Prop where
  read : received = s.env.rings.rx.readFrom s.rx.next received.length
  most : received.length ≤ e.batchCount.toNat
  released : t.rx.next = s.rx.next + .ofNat received.length
  rx : t.env.rings.rx =
    if received.isEmpty then s.env.rings.rx else { s.env.rings.rx with consumer := t.rx.next }
  judged : verdicts = (e.judgeAll received (e.drain s).2.replenish).1
  split : ∃ room, triage room (received.zip verdicts) = (sent, returned)
  inside : ∀ d ∈ sent, s.env.umem.Contains d.addr d.len.toNat
  within : s.env.umem.WrittenWithin received t.env.umem
  tx : t.env.rings.tx =
    (s.env.rings.tx.writeFrom s.tx.next (sent.map Descriptor.outgoing)).publish (.ofNat sent.length)
  submitted : t.tx.next = s.tx.next + .ofNat sent.length
  fill : t.env.rings.fill = (s.env.rings.fill.writeFrom s.fill.next offered).publish (.ofNat offered.length)
  supplied : t.fill.next = s.fill.next + .ofNat offered.length
  pool : ∃ pool, s.pool.Restacked pool (s.pool.stack.drop offered.length) ∧
    offered = s.pool.stack.take offered.length ∧ t.pool = pool.releaseAll (returned.map (·.addr))
  completion : t.completion = s.completion ∧ t.env.rings.completion = s.env.rings.completion
  sizes : t.env.sizes = s.env.sizes

/-- What reclaiming has done. The other side may have been told of the transmit ring, and then it may have done anything.
The collected frames are what was in the slots behind those released before, and each of them is given to the pool. The
engine itself has changed nothing else but the count of outstanding frames and the log. -/
structure Reclaims (e : Engine σ ω) (s t : EngineState σ ω) (collected : List UInt64) : Prop where
  read : collected = t.env.rings.completion.readFrom s.completion.next collected.length
  released : t.completion.next = s.completion.next + .ofNat collected.length
  pool : t.pool = s.pool.releaseAll collected
  most : collected.length < 2 ^ 32
  rest : ∃ env, (env = s.env ∨ env = (e.endpoint.kickTx s.env).2) ∧
    t = { s with
      completion := t.completion, pool := t.pool, outstandingTx := t.outstandingTx
      env := { env with
        rings := { env.rings with completion := { env.rings.completion with consumer := t.env.rings.completion.consumer } }
        log := t.env.log } }
  sizes : t.env.sizes = s.env.sizes

/-- Every received descriptor is sent or its frame is given back, and not both. -/
theorem Handled.disposed {received sent returned : List Descriptor} {verdicts : List Verdict} {offered : List UInt64}
    (handled : Handled e s t received verdicts sent returned offered) : (sent ++ returned).Perm received := by
  obtain ⟨room, split⟩ := handled.split
  refine perm_of_triage ?_ split
  rw [handled.judged, length_judgeAll]

/-- Processing sends packets that lie inside the memory, behind what was sent before, and gives the frames of all others
to the pool. -/
theorem process_disposes (keepsRings : e.processor.Keeps (·.rings)) (keepsUmem : e.processor.Keeps (·.umem))
    {descs : List Descriptor} (few : descs.length < 2 ^ 32) (s : EngineState σ ω) :
    ∃ sent returned, (∃ room, triage room (descs.zip (e.judgeAll descs s).1) = (sent, returned)) ∧
      (∀ d ∈ sent, s.env.umem.Contains d.addr d.len.toNat) ∧
      (e.process descs s).env.rings.tx =
        (s.env.rings.tx.writeFrom s.tx.next (sent.map Descriptor.outgoing)).publish (.ofNat sent.length) ∧
      (e.process descs s).tx.next = s.tx.next + .ofNat sent.length ∧
      (e.process descs s).pool = s.pool.releaseAll (returned.map (·.addr)) := by
  obtain ⟨verdicts, processorState, env, judged, length, rings⟩ :=
    judgeAll_eq keepsRings (fun _ _ => rfl) (fun _ _ _ => rfl) descs s
  obtain ⟨-, inside, -⟩ := judgeAll_within keepsUmem descs s
  rw [judged] at inside
  obtain ⟨sent, returned, split, pool, tx, -⟩ := exists_settle descs verdicts { s with processorState, env }
  have next := next_settle length few split
  dsimp only at rings inside pool tx next
  rw [process, judged]
  refine ⟨sent, returned, ⟨_, split⟩, fun d mem => ?_, ?_, next, pool⟩
  · have here : d ∈ (triage (admitted verdicts { s with processorState, env }) (descs.zip verdicts)).1 := by
      rwa [split]
    exact inside _ (mem_sent here) rfl
  · rw [← rings]
    exact tx

/-- Processing writes inside of packets that lie inside the memory, releases the slots of the batch, and leaves alone what
belongs to the fill and the completion ring. -/
theorem process_within (keepsRings : e.processor.Keeps (·.rings)) (keepsUmem : e.processor.Keeps (·.umem))
    (descs : List Descriptor) (s : EngineState σ ω) :
    s.env.umem.WrittenWithin descs (e.process descs s).env.umem ∧
      (e.process descs s).env.rings = { s.env.rings with
        rx := { s.env.rings.rx with consumer := s.rx.next + .ofNat descs.length }
        tx := (e.process descs s).env.rings.tx } ∧
      (e.process descs s).env.sizes = s.env.sizes ∧ (e.process descs s).rx.next = s.rx.next + .ofNat descs.length ∧
      (e.process descs s).fill = s.fill ∧ (e.process descs s).completion = s.completion := by
  obtain ⟨verdicts, processorState, env, judged, -, rings⟩ :=
    judgeAll_eq keepsRings (fun _ _ => rfl) (fun _ _ _ => rfl) descs s
  obtain ⟨size, -, within⟩ := judgeAll_within keepsUmem descs s
  rw [judged] at size within
  obtain ⟨-, -, -, -, -, -, sizes⟩ := exists_settle descs verdicts { s with processorState, env }
  dsimp only at rings size within sizes
  rw [process, judged]
  refine ⟨within, ?_, sizes.trans ?_, rfl, rfl, rfl⟩
  · rw [← rings]
    rfl
  · rw [Env.sizes, Env.sizes, rings, size]

/-- Where nothing is received only the view of the receive ring can have changed. -/
theorem handled_nothing (sound : s.pool.Sound) (limit : UInt32) :
    Handled e s { s with rx := { s.rx with limit } } [] [] [] [] [] := by
  refine ⟨rfl, Nat.zero_le _, (UInt32.add_zero _).symm, rfl, rfl, ⟨0, rfl⟩, ?_, fun _ _ _ => rfl,
    s.env.rings.tx.publish_zero.symm, (UInt32.add_zero _).symm, s.env.rings.fill.publish_zero.symm,
    (UInt32.add_zero _).symm, ⟨s.pool, .refl sound, rfl, rfl⟩, ⟨rfl, rfl⟩, rfl⟩
  intro d mem
  cases mem

/-- What the work on a batch does, whatever is on the rings. -/
theorem work_handled (keepsRings : e.processor.Keeps (·.rings)) (keepsUmem : e.processor.Keeps (·.umem))
    (sound : s.pool.Sound) :
    ∃ verdicts sent returned offered, Handled e s (e.work s).2 (e.work s).1 verdicts sent returned offered := by
  obtain ⟨count, limit, drained, most⟩ := e.exists_drain s
  obtain ⟨received, read⟩ : ∃ received, s.env.rings.rx.readFrom s.rx.next count = received := ⟨_, rfl⟩
  have length : received.length = count := by rw [← read, Ring.length_readFrom]
  rw [read] at drained
  rw [← length] at read most
  by_cases some : received = []
  · have worked : e.work s = ([], { s with rx := { s.rx with limit } }) := by
      rw [work, drained, some]
      rfl
    rw [worked]
    exact ⟨[], [], [], [], handled_nothing sound limit⟩
  · obtain ⟨n, fill, next, restacked, sizes⟩ := exists_refill (s := { s with rx := { s.rx with limit } }) sound
      (.ofNat s.pool.freeCount)
    obtain ⟨sent, returned, split, inside, tx, submitted, pool⟩ := process_disposes keepsRings keepsUmem
      (Nat.lt_of_le_of_lt most e.batchCount.toNat_lt) ({ s with rx := { s.rx with limit } } : EngineState σ ω).replenish
    obtain ⟨within, rings, sizes', released, view, completion⟩ := process_within keepsRings keepsUmem received
      ({ s with rx := { s.rx with limit } } : EngineState σ ω).replenish
    obtain ⟨left, top⟩ := restacked.of_drop
    rw [work_eq_of_drain drained some]
    refine ⟨_, sent, returned, s.pool.stack.take n, ⟨read.symm, most, released, ?_, ?_, split, inside, within, tx,
      submitted, ?_, ?_, ⟨_, left, top, pool⟩, ⟨completion, ?_⟩, sizes'.trans sizes⟩⟩
    · rw [if_neg (by simpa using some), rings, released]
      rfl
    · rw [drained]
    · rw [rings]
      exact fill
    · rw [view]
      exact next
    · rw [rings]
      rfl

theorem collect_reclaims {env : Env ω} (told : env = s.env ∨ env = (e.endpoint.kickTx s.env).2)
    (same : env.sizes = s.env.sizes) : ∃ collected, Reclaims e s (collect { s with env }) collected := by
  obtain ⟨count, limit, consumer, taken⟩ := s.completion.take_eq env.rings.completion s.completion.size
  have length := env.rings.completion.length_readFrom s.completion.next count.toNat
  refine ⟨env.rings.completion.readFrom s.completion.next count.toNat, ?_⟩
  simp only [collect, taken]
  refine ⟨?_, ?_, rfl, ?_, ⟨env, told, rfl⟩, same⟩
  · rw [length]
    exact Ring.readFrom_congr fun _ _ => rfl
  · rw [length, UInt32.ofNat_toNat]
  · rw [length]
    exact count.toNat_lt

/-- What reclaiming does, whatever is on the rings. -/
theorem reclaim_reclaims (kick : ∀ env, (e.endpoint.kickTx env).2.sizes = env.sizes) (s : EngineState σ ω) :
    ∃ collected, Reclaims e s (e.reclaim s).2 collected := by
  have nothing {env : Env ω} (told : env = s.env ∨ env = (e.endpoint.kickTx s.env).2)
      (same : env.sizes = s.env.sizes) : Reclaims e s { s with env } [] :=
    ⟨rfl, (UInt32.add_zero _).symm, rfl, by decide, ⟨env, told, rfl⟩, same⟩
  rw [reclaim]
  split
  next => exact ⟨[], nothing (.inl rfl) rfl⟩
  next =>
    split
    next =>
      have same := kick s.env
      split
      next called =>
        rw [called] at same
        exact ⟨[], nothing (.inr (by rw [called])) same⟩
      next env called =>
        rw [called] at same
        exact collect_reclaims (.inr (by rw [called])) same
    next => exact collect_reclaims (.inl rfl) rfl

/-! ### Every run -/

/-- The pool is sound, and the memory is as the layout says. -/
structure Safe (l : Layout) (s : EngineState σ ω) : Prop where
  layout : s.pool.layout = l
  pool : s.pool.Sound
  mapped : Mapped l s.env

/-- The states that an engine can get to when the other side does anything: it starts over rings with anything on them,
and before every batch the other side may replace whatever is around, as long as the sizes stay. -/
inductive Attacked (e : Engine σ ω) (l : Layout) : EngineState σ ω → Prop
  | start {env : Env ω} (processorState : σ) (mapped : Mapped l env) : Attacked e l (e.start l processorState env)
  | batch {s : EngineState σ ω} (before : Attacked e l s) : Attacked e l (e.processBatch s).2
  | tamper {s : EngineState σ ω} {env : Env ω} (before : Attacked e l s) (sizes : env.sizes = s.env.sizes) :
      Attacked e l { s with env }

theorem safe_start (e : Engine σ ω) (processorState : σ) {env : Env ω} (mapped : Mapped l env) :
    Safe l (e.start l processorState env) := by
  obtain ⟨n, -, -, restacked, sizes⟩ := exists_refill (s := .attach l processorState env) (FramePool.sound_full l)
    (EngineState.attach l processorState env).fill.size
  exact ⟨restacked.layout, restacked.sound, mapped.of_sizes sizes⟩

section Batch

variable {u : EngineState σ ω} {received sent returned : List Descriptor} {verdicts : List Verdict}
  {offered collected : List UInt64}

/-- Frames leave the stack when they are offered, and they come back when they are given to the pool and not refused. -/
theorem Handled.balance (handled : Handled e s u received verdicts sent returned offered)
    (reclaims : Reclaims e u t collected) :
    t.pool.Sound ∧ t.pool.layout = s.pool.layout ∧
      t.pool.freeCount + (t.pool.rejected - s.pool.rejected).toNat + offered.length =
        s.pool.freeCount + (returned.length + collected.length) := by
  obtain ⟨pool, restacked, top, worked⟩ := handled.pool
  have released : t.pool = pool.releaseAll (returned.map (·.addr) ++ collected) := by
    rw [reclaims.pool, worked, FramePool.releaseAll, FramePool.releaseAll, FramePool.releaseAll, List.foldl_append]
  obtain ⟨sound, layout, refused, le, rejected, count⟩ :=
    restacked.sound.releaseAll_counted (returned.map (·.addr) ++ collected)
  rw [← released] at sound layout rejected count
  refine ⟨sound, layout.trans restacked.layout, ?_⟩
  rw [List.length_append, List.length_map] at le count
  -- Fewer frames are refused in one batch than a counter can count.
  have few : refused < 2 ^ 64 := by
    have most := handled.most
    have length := handled.disposed.length_eq
    have := reclaims.most
    have := e.batchCount.toNat_lt
    rw [List.length_append] at length
    omega
  have growth : (t.pool.rejected - s.pool.rejected).toNat = refused := by
    rw [rejected, restacked.rejected, UInt64.add_comm, UInt64.add_sub_cancel, UInt64.toNat_ofNat']
    exact Nat.mod_eq_of_lt few
  have left : pool.freeCount + offered.length = s.pool.freeCount := by
    have taken := congrArg List.length top
    rw [List.length_take] at taken
    rw [FramePool.freeCount, restacked.stack, List.length_drop, FramePool.freeCount]
    omega
  rw [growth]
  omega

end Batch

/-- A batch, in whatever surroundings, is the work on what was received and then the reclaiming. -/
theorem exists_processBatch (keepsRings : e.processor.Keeps (·.rings)) (keepsUmem : e.processor.Keeps (·.umem))
    (kick : ∀ env, (e.endpoint.kickTx env).2.sizes = env.sizes) (sound : s.pool.Sound) :
    ∃ verdicts sent returned offered collected,
      Handled e s (e.work s).2 (e.work s).1 verdicts sent returned offered ∧
        Reclaims e (e.work s).2 (e.processBatch s).2 collected := by
  obtain ⟨verdicts, sent, returned, offered, handled⟩ := work_handled keepsRings keepsUmem sound
  obtain ⟨collected, reclaims⟩ := reclaim_reclaims kick (e.work s).2
  rw [← snd_processBatch] at reclaims
  exact ⟨verdicts, sent, returned, offered, collected, handled, reclaims⟩

/-- A batch that succeeds says how many packets were received. -/
theorem count_processBatch {count : Nat} (ok : (e.processBatch s).1 = .ok count) : count = (e.work s).1.length :=
  (processBatch_eq_ok_iff.mp (Prod.ext ok rfl)).2

theorem Safe.processBatch (keepsRings : e.processor.Keeps (·.rings)) (keepsUmem : e.processor.Keeps (·.umem))
    (kick : ∀ env, (e.endpoint.kickTx env).2.sizes = env.sizes) (safe : Safe l s) : Safe l (e.processBatch s).2 := by
  obtain ⟨_, _, _, _, _, handled, reclaims⟩ := exists_processBatch keepsRings keepsUmem kick safe.pool
  obtain ⟨sound, layout, -⟩ := handled.balance reclaims
  exact ⟨layout.trans safe.layout, sound, safe.mapped.of_sizes (reclaims.sizes.trans handled.sizes)⟩

theorem Attacked.safe (keepsRings : e.processor.Keeps (·.rings)) (keepsUmem : e.processor.Keeps (·.umem))
    (kick : ∀ env, (e.endpoint.kickTx env).2.sizes = env.sizes) (attacked : e.Attacked l s) : Safe l s := by
  induction attacked with
  | start processorState mapped => exact safe_start e processorState mapped
  | batch _ ih => exact ih.processBatch keepsRings keepsUmem kick
  | tamper _ sizes ih => exact ⟨ih.layout, ih.pool, ih.mapped.of_sizes sizes⟩

/-- Nothing that the other side does makes an engine unsafe. Let it start over any rings and frames, with anything in
them, and let it put anything there before every batch and whenever it is called. Then in every state every number of an
entry, whatever it is, names a slot of its ring, the frame number of every address has its flag, and the stack holds
starts of frames inside the umem, each of them once.

A batch is its work and then the reclaiming, and nothing comes between or after them. It takes in no more descriptors than
it may, and says how many. Each of them has a verdict, and is either put on the transmit ring once, under its address and
with its length, or its frame is given to the pool once. Whatever does not lie inside the umem, also what ends above every
address, is given back, and no bytes change but those of descriptors that do. The number of free frames changes by what is
given back, less what is refused, less what is offered. -/
theorem safe_under_attack (keepsRings : e.processor.Keeps (·.rings)) (keepsUmem : e.processor.Keeps (·.umem))
    (kick : ∀ env, (e.endpoint.kickTx env).2.sizes = env.sizes) (attacked : e.Attacked l s) :
    ((∀ number, s.env.rings.rx.slot number < s.env.rings.rx.slots.size ∧
        s.env.rings.tx.slot number < s.env.rings.tx.slots.size ∧
        s.env.rings.fill.slot number < s.env.rings.fill.slots.size ∧
        s.env.rings.completion.slot number < s.env.rings.completion.slots.size) ∧
      (∀ addr index, l.index? addr = some index → index.toNat < s.pool.isFree.size) ∧
      s.env.umem.size = l.capacity * l.frameSize.toNat) ∧
    (s.pool.stack.Nodup ∧ (∀ addr ∈ s.pool.stack, l.frameSize.toNat ∣ addr.toNat ∧ addr < l.size) ∧
      s.pool.freeCount ≤ s.pool.capacity) ∧
    (e.processBatch s).2 = (e.reclaim (e.work s).2).2 ∧
    (∀ count, (e.processBatch s).1 = .ok count → count = (e.work s).1.length) ∧
    (e.work s).1.length ≤ e.batchSize ∧
    ∃ verdicts sent returned offered collected,
      Handled e s (e.work s).2 (e.work s).1 verdicts sent returned offered ∧
      Reclaims e (e.work s).2 (e.processBatch s).2 collected ∧
      (sent ++ returned).Perm (e.work s).1 ∧
      (∀ d ∈ (e.work s).1, l.capacity * l.frameSize.toNat < d.addr.toNat + d.len.toNat → d ∈ returned) ∧
      (e.processBatch s).2.pool.freeCount + ((e.processBatch s).2.pool.rejected - s.pool.rejected).toNat +
        offered.length = s.pool.freeCount + (returned.length + collected.length) := by
  have safe := attacked.safe keepsRings keepsUmem kick
  obtain ⟨verdicts, sent, returned, offered, collected, handled, reclaims⟩ :=
    exists_processBatch keepsRings keepsUmem kick safe.pool
  refine ⟨⟨fun number => ⟨?_, ?_, ?_, ?_⟩, fun addr index found => ?_, safe.mapped.umem⟩,
    ⟨safe.pool.nodup, fun addr mem => ?_, safe.pool.freeCount_le⟩,
    snd_processBatch e s, fun _ ok => count_processBatch ok, ?_,
    verdicts, sent, returned, offered, collected, handled, reclaims, handled.disposed, fun d mem outside => ?_,
    (handled.balance reclaims).2.2⟩
  · exact safe.mapped.rx.slot_lt number
  · exact safe.mapped.tx.slot_lt number
  · exact safe.mapped.fill.slot_lt number
  · exact safe.mapped.completion.slot_lt number
  · rw [safe.pool.size, safe.layout]
    exact Layout.index_lt_capacity found
  · exact Layout.dvd_and_lt_of_mem (safe.layout ▸ safe.pool.frames mem)
  · have most := handled.most
    rw [batchCount, UInt32.toNat_ofNat'] at most
    exact most.trans (Nat.mod_le _ _)
  · rcases List.mem_append.mp (handled.disposed.mem_iff.mpr mem) with sent | returned
    · have contains := handled.inside d sent
      rw [Area.Contains, safe.mapped.umem] at contains
      omega
    · exact returned

/-- Both frames are offered, and then the other side claims that two billion packets have come in and as many frames have
been sent. Of the three descriptors that a batch takes, one ends above every address, one beyond the umem, and one is
fine. The first is refused by the pool, the second and the completion put their frames on the stack, and the third is
sent. -/
theorem safe_under_attack_of_wrong_cursors :
    let l : Layout := ⟨2048, 2, by decide, by decide⟩
    let e : Engine Unit Unit :=
      ⟨⟨"mirror", fun packet state env => (.forward, packet, state, env)⟩,
        ⟨false, fun _ env => (.ok false, env), fun env => (.ok (), env), fun env => (.ok (), env)⟩, 3, .wait,
        .ofMilliseconds 1000⟩
    let around : Env Unit :=
      { Env.blank () with rings := ⟨.blank 4 0, .blank 2 0, .blank 2 0, .blank 1 7⟩, umem := .zeroed l }
    let received : Ring Descriptor :=
      ⟨#[⟨0xffffffffffffffff, 2, 0⟩, ⟨4000, 200, 0⟩, ⟨17, 4, 1⟩, ⟨17, 4, 1⟩], 0x80000000, 5, some 0⟩
    let s₀ := e.start l () around
    let s : EngineState Unit Unit := { s₀ with env := { s₀.env with rings := { s₀.env.rings with
      rx := received, completion := ⟨#[17], 0x80000000, 0, none⟩ } } }
    let t := (e.processBatch s).2
    (t.pool.stack = [0, 2048] ∧ t.pool.rejected = 1 ∧ t.pool.stack.Nodup) ∧
      t = (e.reclaim (e.work s).2).2 ∧ (e.work s).1 = [⟨0xffffffffffffffff, 2, 0⟩, ⟨4000, 200, 0⟩, ⟨17, 4, 1⟩] ∧
      (e.work s).2.env.rings.tx.pending = [⟨17, 4, 0⟩] ∧
      ∃ verdicts sent returned offered collected,
        Handled e s (e.work s).2 (e.work s).1 verdicts sent returned offered ∧
        Reclaims e (e.work s).2 t collected ∧
        ⟨0xffffffffffffffff, 2, 0⟩ ∈ returned ∧ ⟨4000, 200, 0⟩ ∈ returned ∧
        s.pool.freeCount = 0 ∧ 2 + (1 : UInt64).toNat + offered.length = 0 + (returned.length + collected.length) := by
  intro l e around received s₀ s t
  have started : e.Attacked l s₀ := .start () ⟨⟨2, by decide, rfl⟩, ⟨1, by decide, rfl⟩, ⟨1, by decide, rfl⟩,
    ⟨0, by decide, rfl⟩, Area.size_zeroed l⟩
  have attacked : e.Attacked l s := started.tamper (by decide +kernel)
  have stack : t.pool.stack = [0, 2048] := by decide +kernel
  have rejected : t.pool.rejected = 1 := by decide +kernel
  have empty : s.pool.rejected = 0 := by decide +kernel
  have none : s.pool.freeCount = 0 := by decide +kernel
  have taken : (e.work s).1 = [⟨0xffffffffffffffff, 2, 0⟩, ⟨4000, 200, 0⟩, ⟨17, 4, 1⟩] := by decide +kernel
  obtain ⟨-, -, batch, -, -, verdicts, sent, returned, offered, collected, handled, reclaims, disposed, outside,
    balance⟩ := safe_under_attack (fun _ _ _ => rfl) (fun _ _ _ => rfl) (fun _ => rfl) attacked
  obtain ⟨-, ⟨nodup, -⟩, -⟩ :=
    safe_under_attack (fun _ _ _ => rfl) (fun _ _ _ => rfl) (fun _ => rfl) attacked.batch
  refine ⟨⟨stack, rejected, nodup⟩, batch, taken, by decide +kernel, verdicts, sent, returned, offered, collected, handled,
    reclaims, ?_, ?_, none, ?_⟩
  · exact outside _ (by rw [taken]; decide) (by decide)
  · exact outside _ (by rw [taken]; decide) (by decide)
  · rw [FramePool.freeCount, stack, rejected, empty, none] at balance
    exact balance

end Engine

end XdpEcho
