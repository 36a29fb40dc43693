import XdpEcho.Proofs.Simulator.Runs

/-!
# The frames that are on their way

An engine counts the frames that it has put on the transmit ring and not collected. It looks at the completion ring only
while the count is not zero, so a count that is too low would leave sent frames there for good.

* `KernelRun.cursors` — the other side moves none of the cursors that the engine owns.
* `Engine.work_sends` — a batch adds to the count what it puts on the transmit ring.
* `Engine.reclaim_collects` — what is collected has been counted, and nothing is left when the other side was told.
* `Engine.outstanding_exact` — the count is exact in every state of every run, and no batch makes it wrap.
-/

namespace XdpEcho

/-! ### Reports of frames that were never sent -/

/-- The report that more frames have come back than were sent. -/
def Event.isExcess : Event → Bool
  | .excessCompletions .. => true
  | _ => false

variable {σ ω : Type} {l : Layout} {s t : EngineState σ ω}

/-- How often more frames were reported to have come back than were sent. -/
def Env.excessReports (env : Env ω) : Nat :=
  env.log.countP Event.isExcess

theorem Env.excessReports_emit (env : Env ω) {event : Event} (other : event.isExcess = false) :
    (env.emit event).excessReports = env.excessReports := by
  simp [excessReports, emit, other]

/-! ### Cursors -/

/-- The other side publishes nothing on the transmit ring and releases nothing on the completion ring. -/
theorem KernelStep.cursors {port port' : Rings × Custody} (step : KernelStep l port port') :
    port'.1.tx.producer = port.1.tx.producer ∧ port'.1.completion.consumer = port.1.completion.consumer := by
  cases step with
  | takeFill => exact ⟨rfl, rfl⟩
  | postRx => exact ⟨rfl, rfl⟩
  | takeTx => exact ⟨rfl, rfl⟩
  | postCompletion => exact ⟨rfl, Ring.consumer_push _ _⟩
  | flag rings custody role flags => cases role <;> exact ⟨rfl, rfl⟩

theorem KernelRun.cursors {port port' : Rings × Custody} (run : KernelRun l port port') :
    port'.1.tx.producer = port.1.tx.producer ∧ port'.1.completion.consumer = port.1.completion.consumer := by
  induction run with
  | refl => exact ⟨rfl, rfl⟩
  | tail _ step ih =>
    obtain ⟨producer, consumer⟩ := step.cursors
    exact ⟨producer.trans ih.1, consumer.trans ih.2⟩

namespace Engine

variable {e : Engine σ ω} {held : ω → Custody} {c : Custody}

/-! ### Sending -/

/-- The engine has gone from one state to another by putting descriptors on the transmit ring and counting them. -/
structure Sends (s t : EngineState σ ω) (sent : List Descriptor) : Prop where
  tx : t.env.rings.tx = s.env.rings.tx.push sent
  pending : t.env.rings.tx.pending = s.env.rings.tx.pending ++ sent
  completion : t.env.rings.completion = s.env.rings.completion
  outstandingTx : t.outstandingTx = s.outstandingTx + .ofNat sent.length

theorem process_sends (confined : e.Confined l held) (orderly : Orderly l c s) {descs : List Descriptor}
    (known : descs.length ≤ (s.rx.limit - s.rx.next).toNat) :
    held (e.process descs s).env.world = held s.env.world ∧ ∃ sent, Sends s (e.process descs s) sent := by
  obtain ⟨verdicts, processorState, env, judged, length, same⟩ :=
    judgeAll_eq confined.keepsPort (fun _ _ => rfl) (fun _ _ _ => rfl) descs s
  obtain ⟨rings, custody⟩ := Prod.mk.inj same
  have after : Orderly l c { s with processorState, env } := orderly.around processorState rings
  obtain ⟨sent, returned, split⟩ : ∃ sent returned,
    triage (env.rings.tx.freeSlots 0) (descs.zip verdicts) = (sent, returned) := ⟨_, _, rfl⟩
  obtain ⟨rx, tx, settled, -, -, -, pending⟩ := settle_eq after.rx after.tx known length split
  rw [process, judged]
  dsimp only
  rw [settled]
  refine ⟨custody, sent.map Descriptor.outgoing, ?_, ?_, ?_, ?_⟩
  · rw [← rings]
  · rw [← rings]
    exact pending
  · rw [← rings]
  · rw [List.length_map]

/-- What a batch does before it collects adds to the count what it puts on the transmit ring. -/
theorem work_sends (confined : e.Confined l held) (orderly : Orderly l c s) :
    held (e.work s).2.env.world = held s.env.world ∧ ∃ sent, Sends s (e.work s).2 sent := by
  obtain ⟨descs, rx, drained, tracks, -, known, -, -⟩ := e.drain_eq orderly.rx
  simp only [work, drained]
  split
  next =>
    refine ⟨rfl, [], ?_, ?_, rfl, (UInt32.add_zero _).symm⟩
    · rw [Ring.push_nil]
    · rw [List.append_nil]
  next =>
    have supplied : Orderly l c ({ s with rx } : EngineState σ ω).replenish :=
      Orderly.replenish { orderly with rx := tracks }
    obtain ⟨custody, sent, tx, pending, completion, outstandingTx⟩ := process_sends confined supplied known
    exact ⟨custody, sent, tx, pending, completion, outstandingTx⟩

theorem countP_isExcess_overflow (log : Array Event) (full : Prop) [Decidable full] (overflow : UInt32) :
    (if full then log.push (.transmitRingFull overflow) else log).countP Event.isExcess =
      log.countP Event.isExcess := by
  split
  next => simp [Event.isExcess]
  next => rfl

theorem excessReports_settle (descs : List Descriptor) (verdicts : List Verdict) (s : EngineState σ ω) :
    (settle descs verdicts s).env.excessReports = s.env.excessReports :=
  countP_isExcess_overflow s.env.log _ _

theorem excessReports_work (silent : e.processor.Keeps Env.excessReports) (s : EngineState σ ω) :
    (e.work s).2.env.excessReports = s.env.excessReports := by
  obtain ⟨descs, t, drained, same⟩ : ∃ descs t, e.drain s = (descs, t) ∧ t.env = s.env := ⟨_, _, rfl, rfl⟩
  simp only [work, drained]
  split
  next => rw [same]
  next =>
    obtain ⟨verdicts, processorState, env, judged, -, reports⟩ :=
      judgeAll_eq silent (fun _ _ => rfl) (fun env _ _ => env.excessReports_emit rfl) descs t.replenish
    have supplied : t.replenish.env.excessReports = t.env.excessReports := rfl
    rw [process, judged, excessReports_settle, reports, supplied, same]

/-! ### Collecting -/

/-- The engine has gone from one state to another by taking `collected` frames off the completion ring and off the
count, which is not more than were counted. -/
structure Collects (s t : EngineState σ ω) (collected : Nat) : Prop where
  counted : collected ≤ s.outstandingTx.toNat
  outstandingTx : t.outstandingTx.toNat = s.outstandingTx.toNat - collected
  completion : t.env.rings.completion.consumer = s.env.rings.completion.consumer + .ofNat collected
  tx : t.env.rings.tx.producer = s.env.rings.tx.producer

/-- Collecting nothing. -/
theorem Collects.none (outstandingTx : t.outstandingTx = s.outstandingTx)
    (completion : t.env.rings.completion.consumer = s.env.rings.completion.consumer)
    (tx : t.env.rings.tx.producer = s.env.rings.tx.producer) : Collects s t 0 where
  counted := Nat.zero_le _
  outstandingTx := congrArg UInt32.toNat outstandingTx
  completion := completion.trans (UInt32.add_zero _).symm
  tx := tx

/-- Everything on the completion ring has been counted, so the count does not fall below zero, and there is nothing to
report. -/
theorem collect_collects (orderly : Orderly l c s) :
    Collects s (collect s) s.env.rings.completion.pending.length ∧ (collect s).env.rings.completion.pending = [] ∧
      (collect s).env.excessReports = s.env.excessReports := by
  obtain ⟨completion, collected, -, -⟩ := collect_eq orderly.completion orderly.collected
  have outstanding := orderly.outstanding
  have length := s.env.rings.completion.length_pending
  have counted : s.env.rings.completion.pendingCount ≤ s.outstandingTx := by
    rw [UInt32.le_iff_toNat_le]
    omega
  have all : min s.env.rings.completion.pendingCount s.outstandingTx = s.env.rings.completion.pendingCount := by
    rw [← UInt32.toNat_inj, UInt32.toNat_min]
    exact Nat.min_eq_left counted
  rw [if_neg (UInt32.not_lt.mpr counted), all] at collected
  rw [collected]
  refine ⟨⟨?_, ?_, ?_, rfl⟩, Ring.pending_consume_all _, rfl⟩
  · omega
  · rw [UInt32.toNat_sub_of_le _ _ counted, length]
  · rw [Ring.consumer_consume, length, UInt32.ofNat_toNat]

theorem reclaim_collects (confined : e.Confined l held) (orderly : Orderly l (held s.env.world) s)
    {result : Except SocketError Unit} (called : e.reclaim s = (result, t)) :
    (∃ collected, Collects s t collected) ∧ (result = .ok () → t.env.rings.completion.pending = []) ∧
      ((∀ env, (e.endpoint.kickTx env).2.excessReports = env.excessReports) →
        t.env.excessReports = s.env.excessReports) := by
  rw [reclaim] at called
  split at called
  next none =>
    -- Nothing is counted, so nothing is on the completion ring that could be left there.
    cases called
    have outstanding := orderly.outstanding
    rw [none, UInt32.toNat_zero] at outstanding
    refine ⟨⟨0, .none rfl rfl rfl⟩, fun _ => List.length_eq_zero_iff.mp ?_, fun _ => rfl⟩
    omega
  next =>
    split at called
    next =>
      obtain ⟨tx, completion⟩ := (confined.kickTx s.env).cursors
      have kicked := orderly_of_call orderly (confined.kickTx s.env)
      split at called
      next error env failed =>
        cases called
        rw [failed] at tx completion
        refine ⟨⟨0, .none rfl completion tx⟩, fun ok => ?_, fun silent => ?_⟩
        · cases ok
        · have reports := silent s.env
          rwa [failed] at reports
      next env succeeded =>
        cases called
        rw [succeeded] at tx completion kicked
        obtain ⟨collects, empty, reports⟩ := collect_collects kicked
        refine ⟨⟨_, ⟨collects.counted, collects.outstandingTx, ?_, collects.tx.trans tx⟩⟩, fun _ => empty,
          fun silent => reports.trans ?_⟩
        · rw [collects.completion]
          exact congrArg (· + _) completion
        · have silent := silent s.env
          rwa [succeeded] at silent
    next =>
      cases called
      obtain ⟨collects, empty, reports⟩ := collect_collects orderly
      exact ⟨⟨_, collects⟩, fun _ => empty, fun _ => reports⟩

/-! ### Every run -/

/-- The count of outstanding frames is exact. Take any processor, any four rings with nothing on them and their cursors
anywhere, and any order of batches, failed ones too, and lawful steps of the other side. In every state the count is the
number of frames pending on the transmit ring, held for sending, and pending on the completion ring, and so it is never
more than there are frames. A batch adds what it publishes on the transmit ring, which never wraps, and then takes off
what it releases on the completion ring, which is never more. So it never reports more frames than were sent, when
neither the processor nor the other side makes such reports of its own. After a batch that succeeds nothing is left on
the completion ring. -/
theorem outstanding_exact (confined : e.Confined l held) (reachable : e.Reachable l held s) :
    (s.outstandingTx.toNat =
        s.env.rings.tx.pending.length + (held s.env.world).tx.length + s.env.rings.completion.pending.length ∧
      s.outstandingTx.toNat ≤ l.capacity) ∧
      ∀ {result : Except SocketError Nat} {t : EngineState σ ω}, e.processBatch s = (result, t) →
        (∃ sent collected : Nat,
          t.env.rings.tx.producer = s.env.rings.tx.producer + .ofNat sent ∧
          t.env.rings.completion.consumer = s.env.rings.completion.consumer + .ofNat collected ∧
          s.outstandingTx.toNat + sent ≤ l.capacity ∧ collected ≤ s.outstandingTx.toNat + sent ∧
          t.outstandingTx.toNat = s.outstandingTx.toNat + sent - collected) ∧
        (∀ received, result = .ok received → t.env.rings.completion.pending = []) ∧
        (e.processor.Keeps Env.excessReports →
          (∀ env, (e.endpoint.kickTx env).2.excessReports = env.excessReports) →
            t.env.excessReports = s.env.excessReports) := by
  have orderly := reachable.orderly confined
  refine ⟨⟨orderly.outstanding, orderly.outstanding_le⟩, fun {result t} batch => ?_⟩
  have worked := work_orderly confined orderly
  obtain ⟨custody, sent, sends⟩ := work_sends confined orderly
  obtain ⟨answer, u, called⟩ : ∃ answer u, e.reclaim (e.work s).2 = (answer, u) := ⟨_, _, rfl⟩
  obtain ⟨⟨collected, collects⟩, empty, silent⟩ := reclaim_collects confined worked called
  -- What was sent is counted among all frames, so adding it cannot wrap.
  have added : (e.work s).2.outstandingTx.toNat = s.outstandingTx.toNat + sent.length := by
    have before := orderly.outstanding
    have after := worked.outstanding
    rw [custody, sends.pending, sends.completion, List.length_append] at after
    omega
  obtain ⟨same, received⟩ : u = t ∧ ∀ count, result = .ok count → answer = .ok () := by
    rw [processBatch_eq, called] at batch
    cases answer with
    | ok =>
      cases batch
      exact ⟨rfl, fun _ _ => rfl⟩
    | error error =>
      cases batch
      exact ⟨rfl, nofun⟩
  subst same
  refine ⟨⟨sent.length, collected, ?_, ?_, ?_, ?_, ?_⟩, fun count ok => empty (received count ok),
    fun processor kick => (silent kick).trans (excessReports_work processor s)⟩
  · rw [collects.tx, sends.tx, Ring.push, Ring.producer_publish, Ring.producer_writeFrom]
  · rw [collects.completion, sends.completion]
  · rw [← added]
    exact worked.outstanding_le
  · rw [← added]
    exact collects.counted
  · rw [← added]
    exact collects.outstandingTx

/-- A packet is sent back, its frame is taken and given back: one frame is outstanding, and it is on the completion ring.
The next batch collects it. -/
theorem outstanding_exact_after_a_packet :
    let l : Layout := ⟨2048, 2, by decide, by decide⟩
    let e : Engine Unit Simulator :=
      ⟨⟨"mirror", fun packet state env => (.forward, packet, state, env)⟩, Simulator.endpoint false, 64, .wait,
        .ofMilliseconds 1000⟩
    let s₀ := e.start l () { Env.blank Simulator.idle with
      rings := ⟨.blank 2 0xffffffff, .blank 4 0, .blank 2 0xffffffff, .blank 1 7⟩, umem := .zeroed l }
    let s := [Move.deliver [7], .batch, .transmit, .complete 1].foldl (e.act l) s₀
    s.outstandingTx = 1 ∧ s.env.rings.completion.pending.length = 1 ∧
      ∃ t, e.processBatch s = (.ok (e.work s).1.length, t) ∧ t.env.rings.completion.pending = [] ∧
        t.env.excessReports = s.env.excessReports := by
  intro l e s₀ s
  have drives : e.DrivesSimulator :=
    ⟨⟨false, rfl⟩, fun _ _ _ => rfl, fun _ _ _ => rfl, fun _ _ _ => rfl⟩
  have start : e.Simulated l s₀ :=
    .start () ⟨⟨⟨2, 0xffffffff, rfl⟩, ⟨4, 0, rfl⟩, ⟨2, 0xffffffff, rfl⟩, ⟨1, 7, rfl⟩⟩, Area.size_zeroed l, rfl⟩
  have simulated : e.Simulated l s := (((start.act (.deliver [7])).act .batch).act .transmit).act (.complete 1)
  obtain ⟨t, reclaimed, -⟩ := reclaim_eq_ok drives (e.work s).2
  have batch : e.processBatch s = (.ok (e.work s).1.length, t) := by rw [processBatch_eq, reclaimed]
  obtain ⟨⟨exact, -⟩, step⟩ := outstanding_exact drives.confined (simulated.reachable drives)
  obtain ⟨-, empty, silent⟩ := step batch
  have back : s.env.rings.completion.pending.length = 1 := by decide +kernel
  have others : s.env.rings.tx.pending.length + (Simulator.custody s.env.world).tx.length = 0 := by decide +kernel
  rw [back, others] at exact
  exact ⟨UInt32.toNat_inj.mp exact, back, t, batch, empty _ rfl, silent (fun _ _ _ => rfl) fun _ => rfl⟩

end Engine

end XdpEcho
