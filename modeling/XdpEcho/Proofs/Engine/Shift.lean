import XdpEcho.Bench.Peer
import XdpEcho.Engine.Run
import XdpEcho.Proofs.Engine.Attacked
import XdpEcho.Proofs.Engine.Lockstep
import XdpEcho.Proofs.Ring.Shift

/-!
# Engines whose cursors start elsewhere

The cursors of a ring count all entries since the ring was created and wrap at 32 bits. Nothing that an engine does
depends on how far they have got: over rings whose entries have other numbers it does what it would do otherwise, and the
numbers stay as far apart as they were.

* `EngineState.ShiftedBy` — an engine and the same engine over rings that have started elsewhere.
* `Processor.Aloof`, `Steady` — a processor that does not see the rings, and calls that do not go by where cursors stand.
* `Engine.start_shift`, `Engine.lockstep_shift`, `Engine.run_shift` — what the engine does.
-/

namespace XdpEcho

variable {σ κ α : Type} {d : UInt32}

/-! ### Cursors that stand elsewhere -/

/-- The views of the other side when all entries have larger numbers. -/
def Peer.shift (d : UInt32) (p : Peer) : Peer :=
  ⟨p.rx.shift d, p.tx.shift d, p.fill.shift d, p.completion.shift d⟩

structure Rings.ShiftedBy (d : UInt32) (r r' : Rings) : Prop where
  rx : r.rx.ShiftedBy d r'.rx
  tx : r.tx.ShiftedBy d r'.tx
  fill : r.fill.ShiftedBy d r'.fill
  completion : r.completion.ShiftedBy d r'.completion

/-- The same surroundings but that the entries of all four rings have larger numbers, also for the other side. -/
def Env.ShiftedBy (d : UInt32) (env env' : Env (Peer × κ)) : Prop :=
  ∃ rings, env.rings.ShiftedBy d rings ∧
    env' = { env with rings, world := (env.world.1.shift d, env.world.2) }

/-- The same state but that the entries of all four rings have larger numbers, for both sides. -/
def EngineState.ShiftedBy (d : UInt32) (s s' : EngineState σ (Peer × κ)) : Prop :=
  ∃ env, s.env.ShiftedBy d env ∧
    s' = { s with
      rx := s.rx.shift d, tx := s.tx.shift d, fill := s.fill.shift d, completion := s.completion.shift d, env }

section Shifted

variable {s s' : EngineState σ (Peer × κ)}

theorem EngineState.ShiftedBy.env (shifted : s.ShiftedBy d s') : s.env.ShiftedBy d s'.env := by
  obtain ⟨env, around, rfl⟩ := shifted
  exact around

theorem EngineState.ShiftedBy.withEnv (shifted : s.ShiftedBy d s') {env env' : Env (Peer × κ)}
    (around : env.ShiftedBy d env') : ({ s with env } : EngineState σ _).ShiftedBy d { s' with env := env' } := by
  obtain ⟨_, -, rfl⟩ := shifted
  exact ⟨env', around, rfl⟩

theorem EngineState.ShiftedBy.pool (shifted : s.ShiftedBy d s') : s'.pool = s.pool := by
  obtain ⟨_, -, rfl⟩ := shifted
  rfl

theorem EngineState.ShiftedBy.outstandingTx (shifted : s.ShiftedBy d s') : s'.outstandingTx = s.outstandingTx := by
  obtain ⟨_, -, rfl⟩ := shifted
  rfl

theorem EngineState.ShiftedBy.stop (shifted : s.ShiftedBy d s') : s'.env.stop = s.env.stop := by
  obtain ⟨rings, -, same⟩ := shifted.env
  rw [same]

/-- Whether a side asks to be woken is not a matter of cursors. -/
theorem EngineState.ShiftedBy.needsWakeup (shifted : s.ShiftedBy d s') :
    s'.env.rings.tx.needsWakeup = s.env.rings.tx.needsWakeup ∧
      s'.env.rings.fill.needsWakeup = s.env.rings.fill.needsWakeup := by
  obtain ⟨rings, moved, same⟩ := shifted.env
  rw [same]
  exact ⟨moved.tx.needsWakeup, moved.fill.needsWakeup⟩

end Shifted

/-- A processor that neither sees nor moves the rings and the views of the other side. -/
def Processor.Aloof (p : Processor σ (Peer × κ)) : Prop :=
  ∀ (packet : Bytes) (state : σ) (env : Env (Peer × κ)) (rings : Rings) (peer : Peer),
    p.process packet state { env with rings, world := (peer, env.world.2) } =
      ((p.process packet state env).1, (p.process packet state env).2.1, (p.process packet state env).2.2.1,
        { (p.process packet state env).2.2.2 with
          rings, world := (peer, (p.process packet state env).2.2.2.world.2) })

/-- A call that does not go by where the cursors stand. -/
def Steady (call : Env (Peer × κ) → α × Env (Peer × κ)) : Prop :=
  ∀ {d : UInt32} {env env' : Env (Peer × κ)}, env.ShiftedBy d env' →
    (call env').1 = (call env).1 ∧ (call env).2.ShiftedBy d (call env').2

structure Endpoint.Steady (p : Endpoint (Peer × κ)) : Prop where
  waitReadable : ∀ timeout : Duration, XdpEcho.Steady (p.waitReadable timeout)
  kickTx : XdpEcho.Steady p.kickTx
  wakeupRx : XdpEcho.Steady p.wakeupRx

/-! ### The phases of a batch -/

theorem offer_shift (most first second : UInt32) (view : Producer) (pool : FramePool) {ring ring' : Ring UInt64}
    (shifted : ring.ShiftedBy d ring') :
    ∃ ring'', offer most (first + d) (second + d) (view.shift d) pool ring' =
        ⟨(offer most first second view pool ring).count, (offer most first second view pool ring).view.shift d,
          (offer most first second view pool ring).pool, ring''⟩ ∧
      (offer most first second view pool ring).ring.ShiftedBy d ring'' := by
  simp only [offer, Producer.freeEntries_shift]
  obtain ⟨free, asked⟩ := view.freeEntries first most
  obtain ⟨addrs, rest⟩ := pool.allocateUpTo (min free most).toNat
  by_cases none : UInt32.ofNat addrs.length = 0
  · simp only [if_pos none]
    exact ⟨ring', rfl, shifted⟩
  · have reserved := asked.reserveWithin_shift (d := d) (.ofNat addrs.length) [second]
    rw [List.map_singleton] at reserved
    simp only [if_neg none, reserved]
    obtain ⟨number, granted⟩ := asked.reserveWithin (.ofNat addrs.length) [second]
    cases number with
    | none => exact ⟨ring', rfl, shifted⟩
    | some number => exact ⟨_, rfl, (shifted.writeFrom number addrs).publish _⟩

namespace Engine

variable {e : Engine σ (Peer × κ)} {s s' : EngineState σ (Peer × κ)}

theorem refill_shift (shifted : s.ShiftedBy d s') (most : UInt32) :
    InStep (EngineState.ShiftedBy d) (s.refill most) (s'.refill most) := by
  obtain ⟨_, ⟨rings, moved, rfl⟩, rfl⟩ := shifted
  obtain ⟨fill, offered, moved'⟩ :=
    offer_shift most s.env.rings.fill.consumer s.env.rings.fill.consumer s.fill s.pool moved.fill
  simp only [EngineState.refill, moved.fill.consumer, offered]
  exact ⟨rfl, _, ⟨{ rings with fill }, ⟨moved.rx, moved.tx, moved', moved.completion⟩, rfl⟩, rfl⟩

theorem replenish_shift (shifted : s.ShiftedBy d s') : s.replenish.ShiftedBy d s'.replenish := by
  rw [EngineState.replenish, EngineState.replenish, shifted.pool]
  exact (refill_shift shifted _).2

theorem drain_shift (shifted : s.ShiftedBy d s') :
    InStep (EngineState.ShiftedBy d) (e.drain s) (e.drain s') := by
  obtain ⟨_, ⟨rings, moved, rfl⟩, rfl⟩ := shifted
  simp only [drain, moved.rx.producer, Consumer.peek_shift]
  obtain ⟨count, rx⟩ := s.rx.peek s.env.rings.rx.producer e.batchCount
  exact ⟨moved.rx.readFrom rx.next count.toNat, _, ⟨rings, moved, rfl⟩, rfl⟩

theorem judge_shift (aloof : e.processor.Aloof) (desc : Descriptor) (shifted : s.ShiftedBy d s') :
    InStep (EngineState.ShiftedBy d) (e.judge desc s) (e.judge desc s') := by
  obtain ⟨_, ⟨rings, moved, rfl⟩, rfl⟩ := shifted
  simp only [judge]
  cases s.env.umem.read? desc.addr desc.len.toNat with
  | none => exact ⟨rfl, _, ⟨rings, moved, rfl⟩, rfl⟩
  | some packet =>
    have elsewhere := aloof packet s.processorState s.env rings (s.env.world.1.shift d)
    have here := aloof packet s.processorState s.env s.env.rings s.env.world.1
    obtain ⟨verdict, after, state, env, processed⟩ : ∃ verdict after state env,
      e.processor.process packet s.processorState s.env = (verdict, after, state, env) := ⟨_, _, _, _, rfl⟩
    rw [processed] at elsewhere
    have same : env = { env with rings := s.env.rings, world := (s.env.world.1, env.world.2) } := by
      have tail := congrArg (fun r => r.2.2.2) (processed.symm.trans here)
      rwa [processed] at tail
    have kept : env.rings = s.env.rings := by rw [same]
    have views : env.world.1 = s.env.world.1 := by rw [same]
    simp only [processed, elsewhere]
    refine ⟨rfl, _, ⟨rings, ?_, ?_⟩, rfl⟩
    · rwa [← kept] at moved
    · rw [← views]

/-- Room on the transmit ring is granted in the same way. -/
theorem granted_shift (view : Producer) (consumer wanted : UInt32) :
    (if wanted = 0 then (0, view.shift d) else (view.shift d).freeEntries (consumer + d) wanted) =
      ((if wanted = 0 then (0, view) else view.freeEntries consumer wanted).1,
        (if wanted = 0 then (0, view) else view.freeEntries consumer wanted).2.shift d) := by
  split
  next => rfl
  next => exact view.freeEntries_shift consumer wanted

theorem settle_shift (descs : List Descriptor) (verdicts : List Verdict) (shifted : s.ShiftedBy d s') :
    (settle descs verdicts s).ShiftedBy d (settle descs verdicts s') := by
  obtain ⟨_, ⟨rings, moved, rfl⟩, rfl⟩ := shifted
  obtain ⟨free, limit, asked, reserved⟩ :=
    reserve_granted s.tx s.env.rings.tx.consumer (.ofNat (verdicts.count .forward))
  have asked' := granted_shift (d := d) s.tx s.env.rings.tx.consumer (.ofNat (verdicts.count .forward))
  rw [asked] at asked'
  -- The reservation succeeds on either ring, so the packets go on the ring at the number that it returns.
  have reserved' := Producer.reserve_shift (d := d) { s.tx with limit } s.env.rings.tx.consumer
    (min free (.ofNat (verdicts.count .forward)))
  rw [reserved] at reserved'
  obtain ⟨rx, released, movedRx⟩ := s.rx.release_shift moved.rx (.ofNat descs.length)
  simp only [settle, moved.tx.consumer, asked, asked', reserved, reserved', released, Option.map_some,
    Option.getD_some]
  refine ⟨_, ⟨{ rings with rx, tx := _ }, ⟨movedRx, ?_, moved.fill, moved.completion⟩, rfl⟩, rfl⟩
  exact (moved.tx.writeFrom s.tx.next _).publish _

theorem collect_shift (shifted : s.ShiftedBy d s') : (collect s).ShiftedBy d (collect s') := by
  obtain ⟨_, ⟨rings, moved, rfl⟩, rfl⟩ := shifted
  obtain ⟨completion, taken, movedCompletion⟩ := s.completion.take_shift moved.completion s.completion.size
  have size : (s.completion.shift d).size = s.completion.size := rfl
  simp only [collect, size, taken]
  exact ⟨_, ⟨{ rings with completion }, ⟨moved.rx, moved.tx, moved.fill, movedCompletion⟩, rfl⟩, rfl⟩

theorem lockstep_shift (aloof : e.processor.Aloof) (steady : e.endpoint.Steady) :
    e.Lockstep e (EngineState.ShiftedBy d) where
  drain := drain_shift
  replenish := replenish_shift
  judge desc _ _ shifted := judge_shift aloof desc shifted
  settle descs verdicts _ _ shifted := settle_shift descs verdicts shifted
  kicks shifted := ⟨shifted.outstandingTx, by rw [kicks, kicks, shifted.needsWakeup.1]⟩
  kickTx shifted := by
    obtain ⟨answer, around⟩ := steady.kickTx shifted.env
    exact ⟨answer, shifted.withEnv around⟩
  collect := collect_shift

/-! ### Turns -/

theorem waitingTurn_shift (aloof : e.processor.Aloof) (steady : e.endpoint.Steady) (shifted : s.ShiftedBy d s') :
    InStep (EngineState.ShiftedBy d) (e.waitingTurn s) (e.waitingTurn s') := by
  obtain ⟨answer, around⟩ := steady.waitReadable e.pollTimeout shifted.env
  rw [waitingTurn, waitingTurn]
  generalize e.endpoint.waitReadable e.pollTimeout s.env = waited at *
  generalize e.endpoint.waitReadable e.pollTimeout s'.env = waited' at *
  obtain ⟨result, env⟩ := waited
  obtain ⟨_, env'⟩ := waited'
  cases answer
  cases result with
  | error => exact ⟨rfl, shifted.withEnv around⟩
  | ok =>
    obtain ⟨same, batched⟩ := (lockstep_shift aloof steady).processBatch (shifted.withEnv around)
    dsimp only at same batched ⊢
    generalize e.processBatch { s with env } = r at *
    generalize e.processBatch { s' with env := env' } = r' at *
    obtain ⟨result, t⟩ := r
    obtain ⟨_, t'⟩ := r'
    cases same
    cases result with
    | ok => exact ⟨rfl, batched⟩
    | error => exact ⟨rfl, batched⟩

theorem busyTurn_shift (aloof : e.processor.Aloof) (steady : e.endpoint.Steady) (shifted : s.ShiftedBy d s') :
    InStep (EngineState.ShiftedBy d) (e.busyTurn s) (e.busyTurn s') := by
  obtain ⟨same, batched⟩ := (lockstep_shift aloof steady).processBatch shifted
  rw [busyTurn, busyTurn]
  generalize e.processBatch s = r at *
  generalize e.processBatch s' = r' at *
  obtain ⟨result, t⟩ := r
  obtain ⟨_, t'⟩ := r'
  cases same
  cases result with
  | error => exact ⟨rfl, batched⟩
  | ok received =>
    dsimp only at batched ⊢
    obtain ⟨answer, around⟩ := steady.wakeupRx batched.env
    rw [batched.needsWakeup.2]
    split
    next =>
      generalize e.endpoint.wakeupRx t.env = woken at *
      generalize e.endpoint.wakeupRx t'.env = woken' at *
      obtain ⟨result, env⟩ := woken
      obtain ⟨_, env'⟩ := woken'
      cases answer
      cases result with
      | ok => exact ⟨rfl, batched.withEnv around⟩
      | error => exact ⟨rfl, batched.withEnv around⟩
    next => exact ⟨rfl, batched⟩

theorem turn_shift (aloof : e.processor.Aloof) (steady : e.endpoint.Steady) (shifted : s.ShiftedBy d s') :
    InStep (EngineState.ShiftedBy d) (e.turn s) (e.turn s') := by
  rw [turn, turn]
  cases e.poller with
  | wait => exact waitingTurn_shift aloof steady shifted
  | busy => exact busyTurn_shift aloof steady shifted

theorem emit_shift (shifted : s.ShiftedBy d s') (event : Event) :
    (s.mapEnv (·.emit event)).ShiftedBy d (s'.mapEnv (·.emit event)) := by
  obtain ⟨_, ⟨rings, moved, rfl⟩, rfl⟩ := shifted
  exact ⟨_, ⟨rings, moved, rfl⟩, rfl⟩

theorem run_shift (aloof : e.processor.Aloof) (steady : e.endpoint.Steady) (looks : Nat)
    (shifted : s.ShiftedBy d s') :
    InStep (EngineState.ShiftedBy d) (e.run looks s) (e.run looks s') := by
  induction looks generalizing s s' with
  | zero => exact ⟨rfl, shifted⟩
  | succ looks ih =>
    obtain ⟨answer, after⟩ := turn_shift aloof steady shifted
    rw [run, run, shifted.stop, shifted.outstandingTx]
    split
    next => exact ⟨rfl, emit_shift shifted _⟩
    next =>
      generalize e.turn s = r at *
      generalize e.turn s' = r' at *
      obtain ⟨result, t⟩ := r
      obtain ⟨_, t'⟩ := r'
      cases answer
      cases result with
      | error error => exact ⟨rfl, after⟩
      | ok => exact ih after

theorem finish_shift (shifted : s.ShiftedBy d s') : (finish s).ShiftedBy d (finish s') := by
  rw [finish, finish, shifted.pool]
  split
  next => exact emit_shift shifted _
  next => exact shifted

theorem start_shift (e : Engine σ (Peer × κ)) (l : Layout) (processorState : σ) {env env' : Env (Peer × κ)}
    (around : env.ShiftedBy d env') : (e.start l processorState env).ShiftedBy d (e.start l processorState env') := by
  obtain ⟨rings, moved, rfl⟩ := around
  have attached : (EngineState.attach l processorState env).ShiftedBy d
      (EngineState.attach l processorState { env with rings, world := (env.world.1.shift d, env.world.2) }) := by
    refine ⟨_, ⟨rings, moved, rfl⟩, ?_⟩
    simp only [EngineState.attach, Consumer.attach_shift moved.rx, Producer.attach_shift moved.tx,
      Producer.attach_shift moved.fill, Consumer.attach_shift moved.completion]
  have size : (Producer.attach rings.fill).size = (Producer.attach env.rings.fill).size := by
    rw [Producer.attach_shift moved.fill]
    rfl
  obtain ⟨filled, offered⟩ := refill_shift attached (Producer.attach env.rings.fill).size
  have capacity := offered.pool
  rw [start, start]
  dsimp only [EngineState.attach] at filled offered capacity ⊢
  rw [size, filled, capacity]
  exact emit_shift offered _

end Engine

end XdpEcho
