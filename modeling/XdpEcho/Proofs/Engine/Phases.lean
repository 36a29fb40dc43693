import XdpEcho.Engine.Basic
import XdpEcho.Proofs.Ring.Views
import XdpEcho.Proofs.Umem.FramePool

/-!
# The phases of a batch

What each phase of a batch does to the pool and to the pending entries of the four rings, for views that are right
about their rings.

* `refill_eq` — the top of the free stack goes on the fill ring, as far as there is room.
* `drain_eq` — the oldest received descriptors are copied.
* `triage_perm`, `length_sent` — every frame of a judged batch is sent or given back, and as many are sent as there is
  room for.
* `judgeAll_eq` — running the processor changes only what the processor changes, and packets.
* `settle_eq` — sent descriptors go on the transmit ring, the other frames to the pool.
* `collect_eq` — everything on the completion ring goes to the pool.
* `Engine.processBatch_eq` — a batch is the work on what is received, and then the collecting.
-/

namespace XdpEcho

/-! ### Offering frames -/

/-- How many frames can be offered when at most `most` are to be. -/
def Ring.offerable (ring : Ring UInt64) (most : UInt32) : Nat :=
  min (ring.freeSlots 0) most.toNat

/-- The top of the free stack goes on the ring, as far as there is room. -/
theorem offer_eq {view : Producer} {pool : FramePool} {ring : Ring UInt64} (tracks : view.Tracks ring 0)
    (sound : pool.Sound) (most : UInt32) :
    ∃ view' pool', offer most ring.consumer ring.consumer view pool ring =
        ⟨.ofNat (pool.stack.take (ring.offerable most)).length, view', pool',
          ring.push (pool.stack.take (ring.offerable most))⟩ ∧
      view'.Tracks (ring.push (pool.stack.take (ring.offerable most))) 0 ∧
      pool.Restacked pool' (pool.stack.drop (ring.offerable most)) := by
  obtain ⟨free, view₁, asked⟩ : ∃ free view₁, view.freeEntries ring.consumer most = (free, view₁) := ⟨_, _, rfl⟩
  obtain ⟨tracks₁, -, -, least⟩ := tracks.freeEntries asked
  obtain ⟨pool', taken, restacked⟩ := sound.allocateUpTo (ring.offerable most)
  have count : (min free most).toNat = ring.offerable most := by rw [UInt32.toNat_min, least, Ring.offerable]
  have fits : (pool.stack.take (ring.offerable most)).length ≤ ring.freeSlots 0 := by
    rw [List.length_take, Ring.offerable]
    omega
  have toNat := tracks.lawful.toNat_length (tracks.lawful.room_of_le_freeSlots fits)
  simp only [offer, asked, count, taken]
  split
  next none =>
    rw [none] at toNat
    rw [List.length_eq_zero_iff.mp toNat.symm, Ring.push_nil]
    exact ⟨view₁, pool', rfl, tracks₁, restacked⟩
  next some =>
    obtain ⟨view₂, reserved, tracks₂⟩ := tracks₁.reserve_eq_some _ (toNat ▸ fits)
    rw [toNat, Nat.zero_add] at tracks₂
    simp only [Producer.reserveWithin, reserved, tracks₁.next_eq]
    exact ⟨view₂, pool', rfl, tracks₂.push, restacked⟩

namespace EngineState

variable {σ ω : Type} {s : EngineState σ ω}

/-- The top of the free stack goes on the fill ring, as far as there is room. -/
theorem refill_eq (tracks : s.fill.Tracks s.env.rings.fill 0) (sound : s.pool.Sound) (most : UInt32) :
    ∃ fill pool, s.refill most = (.ofNat (s.pool.stack.take (s.env.rings.fill.offerable most)).length,
        { s with
          fill, pool
          env := { s.env with
            rings := { s.env.rings with
              fill := s.env.rings.fill.push (s.pool.stack.take (s.env.rings.fill.offerable most)) } } }) ∧
      fill.Tracks (s.env.rings.fill.push (s.pool.stack.take (s.env.rings.fill.offerable most))) 0 ∧
      s.pool.Restacked pool (s.pool.stack.drop (s.env.rings.fill.offerable most)) := by
  obtain ⟨fill, pool, offered, tracks', restacked⟩ := offer_eq tracks sound most
  refine ⟨fill, pool, ?_, tracks', restacked⟩
  simp only [refill, offered]

end EngineState

/-! ### Sending or giving back -/

section Triage

variable {judged : List (Descriptor × Verdict)} {room : Nat}

@[simp] theorem triage_nil (room : Nat) : triage room [] = ([], []) := by
  cases room <;> rfl

@[simp] theorem triage_drop (room : Nat) (d : Descriptor) (rest : List (Descriptor × Verdict)) :
    triage room ((d, .drop) :: rest) = ((triage room rest).1, d :: (triage room rest).2) := by
  cases room <;> rfl

@[simp] theorem triage_forward (room : Nat) (d : Descriptor) (rest : List (Descriptor × Verdict)) :
    triage (room + 1) ((d, .forward) :: rest) = (d :: (triage room rest).1, (triage room rest).2) := rfl

@[simp] theorem triage_forward_full (d : Descriptor) (rest : List (Descriptor × Verdict)) :
    triage 0 ((d, .forward) :: rest) = ((triage 0 rest).1, d :: (triage 0 rest).2) := rfl

/-- How many packets of a judged batch are to be forwarded. -/
def forwards (judged : List (Descriptor × Verdict)) : Nat :=
  (judged.map (·.2)).count .forward

@[simp] theorem forwards_drop (d : Descriptor) (rest : List (Descriptor × Verdict)) :
    forwards ((d, .drop) :: rest) = forwards rest := by
  simp [forwards]

@[simp] theorem forwards_forward (d : Descriptor) (rest : List (Descriptor × Verdict)) :
    forwards ((d, .forward) :: rest) = forwards rest + 1 := by
  simp [forwards]

/-- Every frame of a judged batch is sent or given back. -/
theorem triage_perm (room : Nat) (judged : List (Descriptor × Verdict)) :
    ((triage room judged).1 ++ (triage room judged).2).Perm (judged.map (·.1)) := by
  induction judged generalizing room with
  | nil =>
    rw [triage_nil]
    exact .refl _
  | cons first rest ih =>
    obtain ⟨d, verdict⟩ := first
    cases verdict with
    | drop =>
      rw [triage_drop]
      exact List.perm_middle.trans ((ih room).cons d)
    | forward =>
      cases room with
      | zero =>
        rw [triage_forward_full]
        exact List.perm_middle.trans ((ih 0).cons d)
      | succ room => exact (ih room).cons d

/-- Every descriptor of a batch with its verdict is sent or given back. -/
theorem perm_of_triage {descs sent returned : List Descriptor} {verdicts : List Verdict}
    (same : verdicts.length = descs.length) (split : triage room (descs.zip verdicts) = (sent, returned)) :
    (sent ++ returned).Perm descs := by
  have perm := triage_perm room (descs.zip verdicts)
  rwa [split, List.map_fst_zip (Nat.le_of_eq same.symm)] at perm

/-- What is sent has been forwarded. -/
theorem mem_sent {room : Nat} {judged : List (Descriptor × Verdict)} {d : Descriptor}
    (mem : d ∈ (triage room judged).1) : (d, .forward) ∈ judged := by
  induction judged generalizing room with
  | nil =>
    rw [triage_nil] at mem
    cases mem
  | cons first rest ih =>
    obtain ⟨other, verdict⟩ := first
    cases verdict with
    | drop =>
      rw [triage_drop] at mem
      exact List.mem_cons_of_mem _ (ih mem)
    | forward =>
      cases room with
      | zero =>
        rw [triage_forward_full] at mem
        exact List.mem_cons_of_mem _ (ih mem)
      | succ room =>
        rw [triage_forward, List.mem_cons] at mem
        rcases mem with rfl | mem
        · exact List.mem_cons_self
        · exact List.mem_cons_of_mem _ (ih mem)

/-- As many packets are sent as are to be forwarded and have room. -/
theorem length_sent (room : Nat) (judged : List (Descriptor × Verdict)) :
    (triage room judged).1.length = min room (forwards judged) := by
  induction judged generalizing room with
  | nil => simp [forwards]
  | cons first rest ih =>
    obtain ⟨d, verdict⟩ := first
    cases verdict with
    | drop => rw [triage_drop, forwards_drop, ih]
    | forward =>
      cases room with
      | zero => rw [triage_forward_full, ih, Nat.zero_min, Nat.zero_min]
      | succ room => rw [triage_forward, List.length_cons, ih, forwards_forward, Nat.add_min_add_right]

theorem length_sent_le (room : Nat) (judged : List (Descriptor × Verdict)) : (triage room judged).1.length ≤ room := by
  rw [length_sent]
  exact Nat.min_le_left _ _

/-- Room for more packets than are to be forwarded makes no difference. -/
theorem triage_min (room : Nat) (judged : List (Descriptor × Verdict)) :
    triage (min room (forwards judged)) judged = triage room judged := by
  induction judged generalizing room with
  | nil => rw [triage_nil, triage_nil]
  | cons first rest ih =>
    obtain ⟨d, verdict⟩ := first
    cases verdict with
    | drop => rw [triage_drop, triage_drop, forwards_drop, ih]
    | forward =>
      cases room with
      | zero => rw [Nat.zero_min]
      | succ room => rw [forwards_forward, Nat.add_min_add_right, triage_forward, triage_forward, ih]

end Triage

/-! ### The phases -/

variable {σ ω : Type}

/-- Whatever the packet and the surroundings, the processor leaves some part of the surroundings as it is. -/
def Processor.Keeps {β : Type} (p : Processor σ ω) (part : Env ω → β) : Prop :=
  ∀ (packet : Bytes) (state : σ) (env : Env ω), part (p.process packet state env).2.2.2 = part env

/-- A processor that answers in place changes nothing but the packet and the log. -/
theorem Processor.keeps_responder {β : Type} {part : Env ω → β} (name : String)
    (reply : Bytes → Except DropReason Bytes)
    (reports : ∀ (env : Env ω) (reason : DropReason), part (env.emit (.packetDropped reason)) = part env) :
    (responder name reply : Processor σ ω).Keeps part := by
  intro packet state env
  simp only [responder, respond]
  split
  next => rfl
  next reason _ => exact reports env reason

namespace Engine

variable {e : Engine σ ω} {s : EngineState σ ω}

theorem batchCount_ne_zero {batchSize : Nat} (pos : 0 < batchSize) (lt : batchSize < 2 ^ 32) :
    ({ e with batchSize } : Engine σ ω).batchCount ≠ 0 := by
  rw [Ne, ← UInt32.toNat_inj, batchCount, UInt32.toNat_ofNat', UInt32.toNat_zero, Nat.mod_eq_of_lt lt]
  exact Nat.ne_of_gt pos

/-- The oldest received descriptors are copied, and at least one when there are any. -/
theorem drain_eq (e : Engine σ ω) (tracks : s.rx.Tracks s.env.rings.rx) :
    ∃ descs rx, e.drain s = (descs, { s with rx }) ∧ rx.Tracks s.env.rings.rx ∧
      descs <+: s.env.rings.rx.pending ∧ descs.length ≤ (rx.limit - rx.next).toNat ∧
      descs.length ≤ e.batchCount.toNat ∧ (e.batchCount ≠ 0 → descs = [] → s.env.rings.rx.pending = []) := by
  obtain ⟨count, rx, asked⟩ : ∃ count rx, s.rx.peek s.env.rings.rx.producer e.batchCount = (count, rx) :=
    ⟨_, _, rfl⟩
  obtain ⟨tracks', -, least, -, -, empty⟩ := tracks.peek asked
  have known := tracks'.known
  refine ⟨s.env.rings.rx.readFrom rx.next count.toNat, rx, by simp only [drain, asked], tracks', ?_, ?_, ?_, ?_⟩
  · rw [tracks'.next, ← Ring.take_pending _ (by omega)]
    exact List.take_prefix _ _
  · rw [Ring.length_readFrom]
    omega
  · rw [Ring.length_readFrom]
    omega
  · intro some none
    have zero := congrArg List.length none
    rw [Ring.length_readFrom, List.length_nil] at zero
    have positive : e.batchCount.toNat ≠ 0 := fun h => some (UInt32.toNat_inj.mp h)
    have unknown : rx.limit - rx.next = 0 := UInt32.toNat_inj.mp (by rw [UInt32.toNat_zero]; omega)
    exact Ring.pending_eq_nil_iff.mpr (empty (UInt32.sub_eq_iff_eq_add.mp unknown |>.trans (UInt32.zero_add _)))

theorem length_judgeAll (e : Engine σ ω) (descs : List Descriptor) (s : EngineState σ ω) :
    (e.judgeAll descs s).1.length = descs.length := by
  induction descs generalizing s with
  | nil => rfl
  | cons d rest ih => exact congrArg Nat.succ (ih (e.judge d s).2)

/-- Judging a batch changes nothing but the state of the processor and the surroundings, and there only the frame
memory, the reports of packets that are not inside it, and what the processor changes. -/
theorem judgeAll_eq {β : Type} {part : Env ω → β} (keeps : e.processor.Keeps part)
    (umem : ∀ (env : Env ω) (umem : Area), part { env with umem } = part env)
    (reports : ∀ (env : Env ω) (addr : UInt64) (len : UInt32), part (env.emit (.outsideUmem addr len)) = part env)
    (descs : List Descriptor) (s : EngineState σ ω) :
    ∃ verdicts processorState env, e.judgeAll descs s = (verdicts, { s with processorState, env }) ∧
      verdicts.length = descs.length ∧ part env = part s.env := by
  induction descs generalizing s with
  | nil => exact ⟨[], s.processorState, s.env, rfl, rfl, rfl⟩
  | cons d rest ih =>
    obtain ⟨verdict, processorState, env, judged, same⟩ : ∃ verdict processorState env,
        e.judge d s = (verdict, { s with processorState, env }) ∧ part env = part s.env := by
      rw [judge]
      cases s.env.umem.read? d.addr d.len.toNat with
      | none => exact ⟨_, _, _, rfl, reports s.env d.addr d.len⟩
      | some packet => exact ⟨_, _, _, rfl, (umem _ _).trans (keeps packet s.processorState s.env)⟩
    obtain ⟨verdicts, processorState', env', judged', length, same'⟩ := ih { s with processorState, env }
    refine ⟨verdict :: verdicts, processorState', env', ?_, by simp [length], same'.trans same⟩
    simp only [judgeAll, judged, judged']

/-- Whether or not the cursor is looked at, the slots that are granted are those that are free. -/
theorem granted_eq {view : Producer} {ring : Ring Descriptor} (tracks : view.Tracks ring 0) (wanted : UInt32) :
    ∃ free view', (if wanted = 0 then (0, view) else view.freeEntries ring.consumer wanted) = (free, view') ∧
      view'.Tracks ring 0 ∧ (min free wanted).toNat = min (ring.freeSlots 0) wanted.toNat := by
  split
  next none =>
    refine ⟨0, view, rfl, tracks, ?_⟩
    rw [UInt32.toNat_min, none, UInt32.toNat_zero, Nat.min_zero, Nat.min_zero]
  next =>
    obtain ⟨free, view', asked⟩ : ∃ free view', view.freeEntries ring.consumer wanted = (free, view') := ⟨_, _, rfl⟩
    obtain ⟨tracks', -, -, least⟩ := tracks.freeEntries asked
    exact ⟨free, view', asked, tracks', (UInt32.toNat_min _ _).trans least⟩

/-- Sent descriptors go on the transmit ring behind the others, the other frames go to the pool, and the received
descriptors are released. -/
theorem settle_eq (rx : s.rx.Tracks s.env.rings.rx) (tx : s.tx.Tracks s.env.rings.tx 0) {descs : List Descriptor}
    {verdicts : List Verdict} (known : descs.length ≤ (s.rx.limit - s.rx.next).toNat)
    (same : verdicts.length = descs.length) {sent returned : List Descriptor}
    (split : triage (s.env.rings.tx.freeSlots 0) (descs.zip verdicts) = (sent, returned)) :
    ∃ rx' tx', settle descs verdicts s = { s with
        rx := rx', tx := tx'
        pool := s.pool.releaseAll (returned.map (·.addr))
        outstandingTx := s.outstandingTx + .ofNat sent.length
        env := { s.env with
          rings := { s.env.rings with
            rx := s.env.rings.rx.consume (.ofNat descs.length)
            tx := s.env.rings.tx.push (sent.map Descriptor.outgoing) }
          stats := ((s.env.stats.recordRx (UInt32.ofNat descs.length).toUInt64 (totalLength descs)).recordTx
            (UInt32.ofNat sent.length).toUInt64 (totalLength sent)).recordDropped (.ofNat returned.length)
          log :=
            if UInt32.ofNat sent.length < .ofNat (verdicts.count .forward) then
              s.env.log.push (.transmitRingFull (.ofNat (verdicts.count .forward) - .ofNat sent.length))
            else s.env.log } } ∧
      rx'.Tracks (s.env.rings.rx.consume (.ofNat descs.length)) ∧
      tx'.Tracks (s.env.rings.tx.push (sent.map Descriptor.outgoing)) 0 ∧
      (s.env.rings.rx.consume (.ofNat descs.length)).pending = s.env.rings.rx.pending.drop descs.length ∧
      (s.env.rings.tx.push (sent.map Descriptor.outgoing)).pending =
        s.env.rings.tx.pending ++ sent.map Descriptor.outgoing := by
  have bound := s.env.rings.rx.pendingCount.toNat_lt
  have toNat : (UInt32.ofNat descs.length).toNat = descs.length := by
    have := rx.known
    rw [UInt32.toNat_ofNat']
    omega
  have forward : (UInt32.ofNat (verdicts.count .forward)).toNat = forwards (descs.zip verdicts) := by
    have le := List.count_le_length (a := Verdict.forward) (l := verdicts)
    have := rx.known
    rw [forwards, List.map_snd_zip (by omega), UInt32.toNat_ofNat']
    omega
  have length := length_sent (s.env.rings.tx.freeSlots 0) (descs.zip verdicts)
  rw [split] at length
  obtain ⟨free, tx₁, asked, tracks₁, granted⟩ := granted_eq tx (.ofNat (verdicts.count .forward))
  have toNat_accepted : (min free (UInt32.ofNat (verdicts.count .forward))).toNat = sent.length := by
    rw [granted, forward]
    exact length.symm
  have accepted : min free (UInt32.ofNat (verdicts.count .forward)) = .ofNat sent.length := by
    rw [← toNat_accepted, UInt32.ofNat_toNat]
  have judged : triage sent.length (descs.zip verdicts) = (sent, returned) := by
    rw [length, triage_min, split]
  have fits : (UInt32.ofNat sent.length).toNat ≤ s.env.rings.tx.freeSlots 0 := by
    rw [← accepted, granted]
    exact Nat.min_le_left _ _
  obtain ⟨tx₂, reserved, tracks₂⟩ := tracks₁.reserve_eq_some _ fits
  obtain ⟨rx', released, tracksRx, -⟩ := rx.release (.ofNat descs.length) (by rw [toNat]; exact known)
  rw [accepted] at toNat_accepted
  rw [toNat_accepted, Nat.zero_add] at tracks₂
  have room : (sent.map Descriptor.outgoing).length ≤ s.env.rings.tx.freeSlots 0 := by
    have le := length_sent_le (s.env.rings.tx.freeSlots 0) (descs.zip verdicts)
    rwa [split, ← List.length_map] at le
  refine ⟨rx', tx₂, ?_, tracksRx, ?_, Ring.pending_consume_ofNat (known.trans rx.known),
    tx.lawful.pending_push (tx.lawful.room_of_le_freeSlots room)⟩
  · simp only [settle, asked, accepted, reserved, toNat_accepted, judged, released, tracks₁.next_eq, Option.getD_some,
      Ring.push, List.length_map]
  · exact Producer.Tracks.push (by rwa [List.length_map])

/-- Everything on the completion ring goes to the pool. -/
theorem collect_eq (tracks : s.completion.Tracks s.env.rings.completion)
    (fresh : s.completion.limit = s.completion.next) :
    ∃ completion, collect s = { s with
        completion
        pool := s.pool.releaseAll s.env.rings.completion.pending
        outstandingTx := s.outstandingTx - min s.env.rings.completion.pendingCount s.outstandingTx
        env := { s.env with
          rings := { s.env.rings with
            completion := s.env.rings.completion.consume s.env.rings.completion.pendingCount }
          log :=
            if s.outstandingTx < s.env.rings.completion.pendingCount then
              s.env.log.push (.excessCompletions s.env.rings.completion.pendingCount s.outstandingTx)
            else s.env.log } } ∧
      completion.Tracks (s.env.rings.completion.consume s.env.rings.completion.pendingCount) ∧
      completion.limit = completion.next := by
  obtain ⟨addrs, completion, ring, taken⟩ : ∃ addrs completion ring,
      s.completion.take s.env.rings.completion s.completion.size = (addrs, completion, ring) := ⟨_, _, _, rfl⟩
  obtain ⟨-, -, ring_eq, tracks', all⟩ := tracks.take taken
  have enough : s.env.rings.completion.pendingCount.toNat ≤ s.completion.size.toNat := by
    rw [tracks.size, tracks.lawful.sized.toNat_size]
    exact tracks.lawful.bounded
  obtain ⟨rfl, fresh'⟩ := all (.inl fresh) enough
  have count : UInt32.ofNat s.env.rings.completion.pending.length = s.env.rings.completion.pendingCount := by
    rw [Ring.length_pending, UInt32.ofNat_toNat]
  rw [count] at ring_eq
  subst ring_eq
  refine ⟨completion, ?_, tracks', fresh'⟩
  simp only [collect, taken, count]

/-! ### A batch -/

/-- What a batch does before it collects. Returns what was received. -/
def work (e : Engine σ ω) (s : EngineState σ ω) : List Descriptor × EngineState σ ω :=
  let (descs, s) := e.drain s
  (descs, if descs.isEmpty then s else e.process descs s.replenish)

/-- A batch that has received something offers frames and then processes what it has received. -/
theorem work_eq_of_drain {t : EngineState σ ω} {descs : List Descriptor} (drained : e.drain s = (descs, t))
    (some : descs ≠ []) : e.work s = (descs, e.process descs t.replenish) := by
  have nonempty : descs.isEmpty = false := by simpa using some
  simp only [work, drained, nonempty]
  rfl

/-- A batch is the work on what is received, and then the collecting. -/
theorem processBatch_eq (e : Engine σ ω) (s : EngineState σ ω) :
    e.processBatch s =
      match e.reclaim (e.work s).2 with
      | (.ok (), t) => (.ok (e.work s).1.length, t)
      | (.error error, t) => (.error error, t) :=
  rfl

/-- Whether or not a batch succeeds, the state is the one after reclaiming. -/
theorem snd_processBatch (e : Engine σ ω) (s : EngineState σ ω) :
    (e.processBatch s).2 = (e.reclaim (e.work s).2).2 := by
  rw [processBatch_eq]
  split
  next called => rw [called]
  next called => rw [called]

theorem processBatch_eq_ok_iff {received : Nat} {t : EngineState σ ω} :
    e.processBatch s = (.ok received, t) ↔ e.reclaim (e.work s).2 = (.ok (), t) ∧ received = (e.work s).1.length := by
  rw [processBatch_eq]
  constructor
  · intro batch
    split at batch
    next called =>
      cases batch
      exact ⟨called, rfl⟩
    next => cases batch
  · rintro ⟨called, rfl⟩
    rw [called]

/-- What holds before and also once the other side has been told of the transmit ring, and is kept by collecting, holds
after reclaiming. -/
theorem reclaim_invariant {P : EngineState σ ω → Prop} (e : Engine σ ω) (before : P s)
    (told : P { s with env := (e.endpoint.kickTx s.env).2 }) (collects : ∀ {t : EngineState σ ω}, P t → P (collect t)) :
    P (e.reclaim s).2 := by
  rw [reclaim]
  split
  next => exact before
  next =>
    split
    next =>
      split
      next called =>
        rw [called] at told
        exact told
      next called =>
        rw [called] at told
        exact collects told
    next => exact collects before

end Engine

end XdpEcho
