import XdpEcho.Bench.Basic
import XdpEcho.Proofs.Engine.Attacked
import XdpEcho.Proofs.Engine.Packetwise

/-!
# The counters account for every packet

An engine counts what it releases on the receive ring, what it submits on the transmit ring and what it gives back, and a
processor may count what it sends by itself. None of that depends on what the other side does: it may write any cursors
and any descriptors, and a batch counts the same whether or not it ends in an error.

* `Account`, `Engine.deal` — what becomes of the descriptors of a batch.
* `Engine.work_counted`, `Engine.rings_work` — a batch counts that, and it is what happens on the rings.
* `Processor.Books` — what a processor counts by itself is on record.
* `Engine.Accounted`, `Engine.Accounted.counted` — the counters in every state of every run.
* `Engine.counters_account_for_packets` — what this means for each kind of processor.
-/

namespace XdpEcho

variable {σ ω : Type}

/-! ### Sums -/

theorem totalLength_eq (descs : List Descriptor) : totalLength descs = .ofNat (descs.map (·.len.toNat)).sum := by
  induction descs with
  | nil => rfl
  | cons d rest ih =>
    have wide : d.len.toUInt64 = .ofNat d.len.toNat := by
      rw [← UInt64.toNat_inj, UInt32.toNat_toUInt64, UInt64.toNat_ofNat']
      have := d.len.toNat_lt
      omega
    rw [totalLength_cons, ih, wide, List.map_cons, List.sum_cons, UInt64.ofNat_add]

theorem totalLength_append (first later : List Descriptor) :
    totalLength (first ++ later) = totalLength first + totalLength later := by
  simp only [totalLength_eq, List.map_append, List.sum_append, UInt64.ofNat_add]

theorem totalLength_outgoing (descs : List Descriptor) : totalLength (descs.map .outgoing) = totalLength descs := by
  rw [totalLength_eq, totalLength_eq, List.map_map]
  rfl

theorem tally_outgoing (received sent returned : List Descriptor) :
    tally received (sent.map .outgoing) returned = tally received sent returned := by
  simp only [tally, List.length_map, totalLength_outgoing]

/-! ### What becomes of descriptors -/

/-- What an engine has done with descriptors. -/
structure Account where
  /-- Those released on the receive ring. -/
  released : List Descriptor
  /-- Those submitted on the transmit ring. -/
  submitted : List Descriptor
  /-- Those whose frames were given back without being sent. -/
  returned : List Descriptor

namespace Account

def nothing : Account := ⟨[], [], []⟩

/-- One account and then another. -/
def followedBy (first later : Account) : Account :=
  ⟨first.released ++ later.released, first.submitted ++ later.submitted, first.returned ++ later.returned⟩

/-- What is to be counted. -/
def counters (a : Account) : Stats := tally a.released a.submitted a.returned

theorem counters_followedBy (first later : Account) :
    (first.followedBy later).counters = first.counters + later.counters := by
  simp only [counters, followedBy, tally, Stats.add_def, List.length_append, UInt64.ofNat_add, totalLength_append]

end Account

namespace Engine

variable {e : Engine σ ω} {s : EngineState σ ω}

/-- The state in which the processor has run over the packets of a batch and none of them is settled. -/
def judged (e : Engine σ ω) (s : EngineState σ ω) : EngineState σ ω :=
  (e.judgeAll (e.drain s).1 (e.drain s).2.replenish).2

/-- What the next batch does with descriptors. -/
def deal (e : Engine σ ω) (s : EngineState σ ω) : Account :=
  let descs := (e.drain s).1
  let verdicts := (e.judgeAll descs (e.drain s).2.replenish).1
  let (sent, returned) := triage (admitted verdicts (e.judged s)) (descs.zip verdicts)
  ⟨descs, sent.map .outgoing, returned⟩

/-- The work on a batch counts what becomes of its descriptors. -/
theorem work_counted (e : Engine σ ω) (s : EngineState σ ω) :
    (e.work s).2.env.stats = (e.judged s).env.stats + (e.deal s).counters ∧
      (e.work s).2.env.world = (e.judged s).env.world ∧
      (e.deal s).released.length = (e.deal s).submitted.length + (e.deal s).returned.length := by
  obtain ⟨count, limit, drained, most⟩ := e.exists_drain s
  obtain ⟨descs, read⟩ : ∃ descs, s.env.rings.rx.readFrom s.rx.next count = descs := ⟨_, rfl⟩
  have few : descs.length < 2 ^ 32 := by
    rw [← read, Ring.length_readFrom]
    exact Nat.lt_of_le_of_lt most e.batchCount.toNat_lt
  rw [read] at drained
  obtain ⟨verdicts, u, judgedAll⟩ : ∃ verdicts u,
    e.judgeAll descs ({ s with rx := { s.rx with limit } } : EngineState σ ω).replenish = (verdicts, u) := ⟨_, _, rfl⟩
  have same : verdicts.length = descs.length := by
    rw [← e.length_judgeAll descs, judgedAll]
  obtain ⟨sent, returned, split, -, -, counted, -⟩ := exists_settle descs verdicts u
  have perm := (perm_of_triage same split).length_eq
  rw [List.length_append] at perm
  simp only [work, judged, deal, drained, judgedAll, split, Account.counters, tally_outgoing, List.length_map]
  refine ⟨?_, ?_, perm.symm⟩
  all_goals split
  next none =>
    obtain rfl := List.isEmpty_iff.mp none
    cases judgedAll
    rw [List.zip_nil_left, triage_nil] at split
    cases split
    exact (Stats.add_zero _).symm
  next => rw [process, judgedAll, counted, record_eq_tally _ _ few (by omega)]
  next none =>
    obtain rfl := List.isEmpty_iff.mp none
    cases judgedAll
    rfl
  next =>
    rw [process, judgedAll]
    rfl

/-- What is counted as released and as submitted is what happens on the rings: the descriptors are read behind those
released before, the consumer cursor is set behind them, and those submitted are written and published behind those
submitted before. -/
theorem rings_work (keepsRings : e.processor.Keeps (·.rings)) (s : EngineState σ ω) :
    (e.deal s).released = s.env.rings.rx.readFrom s.rx.next (e.deal s).released.length ∧
      (e.work s).2.rx.next = s.rx.next + .ofNat (e.deal s).released.length ∧
      ((e.deal s).released ≠ [] → (e.work s).2.env.rings.rx.consumer = (e.work s).2.rx.next) ∧
      (e.work s).2.env.rings.tx = (s.env.rings.tx.writeFrom s.tx.next (e.deal s).submitted).publish
        (.ofNat (e.deal s).submitted.length) := by
  obtain ⟨count, limit, drained, -⟩ := e.exists_drain s
  obtain ⟨descs, read⟩ : ∃ descs, s.env.rings.rx.readFrom s.rx.next count = descs := ⟨_, rfl⟩
  have length : descs.length = count := by rw [← read, Ring.length_readFrom]
  rw [read] at drained
  obtain ⟨verdicts, processorState, env, judgedAll, -, rings⟩ :=
    judgeAll_eq keepsRings (fun _ _ => rfl) (fun _ _ _ => rfl) descs
      ({ s with rx := { s.rx with limit } } : EngineState σ ω).replenish
  obtain ⟨sent, returned, split, -, tx, -, -⟩ := exists_settle descs verdicts
    { ({ s with rx := { s.rx with limit } } : EngineState σ ω).replenish with processorState, env }
  simp only [work, deal, judged, drained, judgedAll, split, length, List.length_map]
  refine ⟨read.symm, ?_⟩
  split
  next none =>
    obtain rfl := List.isEmpty_iff.mp none
    rw [List.zip_nil_left, triage_nil] at split
    cases split
    obtain rfl : 0 = count := length
    exact ⟨(UInt32.add_zero _).symm, fun some => absurd rfl some, s.env.rings.tx.publish_zero.symm⟩
  next =>
    rw [process, judgedAll, ← length]
    dsimp only
    refine ⟨rfl, fun _ => rfl, ?_⟩
    rw [tx]
    dsimp only at rings
    rw [rings]
    rfl

/-- Reclaiming has nothing to do with what is received and what is sent. -/
theorem views_reclaim (e : Engine σ ω) (s : EngineState σ ω) :
    (e.reclaim s).2.rx = s.rx ∧ (e.reclaim s).2.tx = s.tx :=
  e.reclaim_invariant (P := fun t => t.rx = s.rx ∧ t.tx = s.tx) ⟨rfl, rfl⟩ ⟨rfl, rfl⟩ fun same => same

end Engine

/-! ### What a processor counts by itself -/

/-- A part of the counters that adds up by itself. -/
def Stats.Additive (read : Stats → Stats) : Prop :=
  ∀ a b : Stats, read (a + b) = read a + read b

/-- What has been counted on reception. -/
def Stats.received (stats : Stats) : Stats := ⟨stats.rxPackets, stats.rxBytes, 0, 0, 0⟩

/-- What a processor counts by itself, as far as it is read, is also on record in the rest of the surroundings. -/
def Processor.Books (p : Processor σ ω) (read : Stats → Stats) (ledger : ω → Stats) : Prop :=
  ∀ (packet : Bytes) (state : σ) (env : Env ω), ∃ counted,
    read (p.process packet state env).2.2.2.stats = read env.stats + counted ∧
      ledger (p.process packet state env).2.2.2.world = ledger env.world + counted

/-- The record of a processor that counts nothing by itself. -/
def unrecorded (_ : List UInt64) : Stats := .zero

namespace Engine

variable {e : Engine σ ω} {s t : EngineState σ ω} {a : Account} {read : Stats → Stats} {ledger : ω → Stats}

theorem judgeAll_books (books : e.processor.Books read ledger) (descs : List Descriptor) (s : EngineState σ ω) :
    ∃ counted, read (e.judgeAll descs s).2.env.stats = read s.env.stats + counted ∧
      ledger (e.judgeAll descs s).2.env.world = ledger s.env.world + counted := by
  induction descs generalizing s with
  | nil => exact ⟨.zero, (Stats.add_zero _).symm, (Stats.add_zero _).symm⟩
  | cons d rest ih =>
    obtain ⟨first, stats, recorded⟩ : ∃ first, read (e.judge d s).2.env.stats = read s.env.stats + first ∧
        ledger (e.judge d s).2.env.world = ledger s.env.world + first := by
      rw [judge]
      cases s.env.umem.read? d.addr d.len.toNat with
      | none => exact ⟨.zero, (Stats.add_zero _).symm, (Stats.add_zero _).symm⟩
      | some packet => exact books packet s.processorState s.env
    obtain ⟨later, stats', recorded'⟩ := ih (e.judge d s).2
    refine ⟨first + later, stats'.trans ?_, recorded'.trans ?_⟩
    · rw [stats]
      ac_rfl
    · rw [recorded]
      ac_rfl

end Engine

/-! ### Every run -/

/-- Telling the other side of the transmit ring changes neither the counters nor the record of what has gone out of the
link. -/
def Endpoint.Uncounted (p : Endpoint ω) (sends : ω → List UInt64) : Prop :=
  ∀ env : Env ω, (p.kickTx env).2.stats = env.stats ∧ sends (p.kickTx env).2.world = sends env.world

namespace Engine

variable {e : Engine σ ω} {s t : EngineState σ ω} {a : Account} {sends : ω → List UInt64}

/-- The states that an engine can get to from any state in which nothing has been counted, with what it has done with
descriptors on the way: batches of any sizes, whether or not they end in an error, and between them anything that leaves
the counters and the record of the link alone, whatever it does to the shared memory. -/
inductive Accounted (e : Engine σ ω) (sends : ω → List UInt64) : EngineState σ ω → Account → Prop
  | start {s : EngineState σ ω} (zero : s.env.stats = .zero) (blank : sends s.env.world = []) :
      Accounted e sends s .nothing
  | batch {s : EngineState σ ω} {a : Account} (before : Accounted e sends s a) (batchSize : Nat) :
      Accounted e sends (({ e with batchSize } : Engine σ ω).processBatch s).2
        (a.followedBy (({ e with batchSize } : Engine σ ω).deal s))
  | meanwhile {s : EngineState σ ω} {a : Account} {env : Env ω} (before : Accounted e sends s a)
      (stats : env.stats = s.env.stats) (record : sends env.world = sends s.env.world) :
      Accounted e sends { s with env } a

/-- Reclaiming counts nothing, whether or not it succeeds. -/
theorem reclaim_uncounted (uncounted : e.endpoint.Uncounted sends) (s : EngineState σ ω) :
    (e.reclaim s).2.env.stats = s.env.stats ∧ sends (e.reclaim s).2.env.world = sends s.env.world := by
  exact e.reclaim_invariant (P := fun t => t.env.stats = s.env.stats ∧ sends t.env.world = sends s.env.world) ⟨rfl, rfl⟩
    (uncounted s.env) fun same => same

/-- A batch counts what it does with descriptors, besides what the processor counts and has on record. -/
theorem processBatch_counted {read : Stats → Stats} {ledger : List UInt64 → Stats} (additive : Stats.Additive read)
    (books : e.processor.Books read fun world => ledger (sends world)) (uncounted : e.endpoint.Uncounted sends)
    (s : EngineState σ ω) :
    ∃ counted, read (e.processBatch s).2.env.stats = read s.env.stats + counted + read (e.deal s).counters ∧
      ledger (sends (e.processBatch s).2.env.world) = ledger (sends s.env.world) + counted := by
  obtain ⟨stats, record⟩ := reclaim_uncounted uncounted (e.work s).2
  obtain ⟨worked, world, -⟩ := e.work_counted s
  obtain ⟨counted, judgedStats, recorded⟩ := judgeAll_books books (e.drain s).1 (e.drain s).2.replenish
  have before : (e.drain s).2.replenish.env.stats = s.env.stats ∧ (e.drain s).2.replenish.env.world = s.env.world := by
    obtain ⟨count, limit, drained, -⟩ := e.exists_drain s
    rw [drained]
    exact ⟨rfl, rfl⟩
  rw [before.1, ← judged] at judgedStats
  rw [before.2, ← judged] at recorded
  rw [snd_processBatch]
  refine ⟨counted, ?_, ?_⟩
  · rw [stats, worked, additive, judgedStats]
  · rw [record, world, recorded]

/-- The counters are what has been done with descriptors, and what the processor has on record. -/
theorem Accounted.counted {read : Stats → Stats} {ledger : List UInt64 → Stats} (additive : Stats.Additive read)
    (blank : ledger [] = .zero) (books : e.processor.Books read fun world => ledger (sends world))
    (uncounted : e.endpoint.Uncounted sends) (accounted : e.Accounted sends s a) :
    read s.env.stats = read a.counters + ledger (sends s.env.world) := by
  induction accounted with
  | start zero none =>
    rw [zero, none, blank, Stats.add_zero]
    rfl
  | @batch s a _ batchSize ih =>
    obtain ⟨counted, stats, record⟩ :=
      processBatch_counted (e := { e with batchSize }) additive books uncounted s
    rw [stats, record, ih, Account.counters_followedBy, additive]
    ac_rfl
  | meanwhile _ stats record ih =>
    dsimp only
    rw [stats, record]
    exact ih

/-- What has been released has been submitted or given back. -/
theorem Accounted.disposed (accounted : e.Accounted sends s a) :
    a.released.length = a.submitted.length + a.returned.length := by
  induction accounted with
  | start => rfl
  | @batch s a _ batchSize ih =>
    obtain ⟨-, -, all⟩ := work_counted { e with batchSize } s
    simp only [Account.followedBy, List.length_append]
    omega
  | meanwhile _ _ _ ih => exact ih

theorem judgeAll_drops (drops : ∀ packet state env, (e.processor.process packet state env).1 = .drop)
    (descs : List Descriptor) (s : EngineState σ ω) {verdict : Verdict} (mem : verdict ∈ (e.judgeAll descs s).1) :
    verdict = .drop := by
  induction descs generalizing s with
  | nil => cases mem
  | cons d rest ih =>
    have judged : (e.judge d s).1 = .drop := by
      rw [judge]
      cases s.env.umem.read? d.addr d.len.toNat with
      | none => rfl
      | some packet => exact drops packet s.processorState s.env
    rcases List.mem_cons.mp mem with rfl | mem
    · exact judged
    · exact ih (e.judge d s).2 mem

theorem submitted_deal (drops : ∀ packet state env, (e.processor.process packet state env).1 = .drop)
    (s : EngineState σ ω) : (e.deal s).submitted = [] := by
  refine List.map_eq_nil_iff.mpr (List.eq_nil_iff_forall_not_mem.mpr fun d mem => ?_)
  have forward := judgeAll_drops drops _ _ (List.of_mem_zip (mem_sent mem)).2
  cases forward

/-- A processor that forwards nothing has nothing submitted. -/
theorem Accounted.submitted_eq (drops : ∀ packet state env, (e.processor.process packet state env).1 = .drop)
    (accounted : e.Accounted sends s a) : a.submitted = [] := by
  induction accounted with
  | start => rfl
  | @batch s a _ batchSize ih =>
    have none := submitted_deal (e := { e with batchSize }) drops s
    rw [Account.followedBy, ih, none, List.append_nil]
  | meanwhile _ _ _ ih => exact ih

/-! ### The counters -/

theorem Accounted.rx (uncounted : e.endpoint.Uncounted sends) (accounted : e.Accounted sends s a)
    (keeps : e.processor.Keeps fun env => (env.stats.rxPackets, env.stats.rxBytes)) :
    s.env.stats.rxPackets = .ofNat a.released.length ∧
      s.env.stats.rxBytes = .ofNat (a.released.map (·.len.toNat)).sum := by
  have books : e.processor.Books Stats.received fun world => unrecorded (sends world) := by
    intro packet state env
    obtain ⟨packets, bytes⟩ := Prod.mk.inj (keeps packet state env)
    refine ⟨.zero, ?_, rfl⟩
    rw [Stats.add_zero, Stats.received, Stats.received, packets, bytes]
  have counted := accounted.counted (fun _ _ => rfl) rfl books uncounted
  rw [unrecorded, Stats.add_zero] at counted
  obtain ⟨packets, bytes, -⟩ := Stats.mk.inj counted
  exact ⟨packets, bytes.trans (totalLength_eq a.released)⟩

theorem Accounted.tx (uncounted : e.endpoint.Uncounted sends) (accounted : e.Accounted sends s a)
    (keeps : e.processor.Keeps (·.stats)) :
    s.env.stats.txPackets = .ofNat a.submitted.length ∧
      s.env.stats.txBytes = .ofNat (a.submitted.map (·.len.toNat)).sum ∧
      s.env.stats.rxPackets = s.env.stats.txPackets + s.env.stats.dropped := by
  have books : e.processor.Books id fun world => unrecorded (sends world) := by
    intro packet state env
    exact ⟨.zero, (keeps packet state env).trans (Stats.add_zero _).symm, rfl⟩
  have counted : s.env.stats = a.counters := by
    have counted := accounted.counted (fun _ _ => rfl) rfl books uncounted
    rwa [unrecorded, Stats.add_zero] at counted
  rw [counted]
  refine ⟨rfl, totalLength_eq a.submitted, ?_⟩
  rw [Account.counters, tally, accounted.disposed, UInt64.ofNat_add]

end Engine

/-! ### The processor that answers out of a link -/

/-- What has gone out of a link is on record: how many bytes each send that succeeded has returned. Sending does not
touch the counters. -/
def Records (send : Bytes → Env ω → Except SystemError UInt64 × Env ω) (sends : ω → List UInt64) : Prop :=
  ∀ (frame : Bytes) (env : Env ω), (send frame env).2.stats = env.stats ∧
    sends (send frame env).2.world = sends env.world ++ (match (send frame env).1 with
      | .ok length => [length]
      | .error _ => [])

/-- What the sends of a link add to the counters. -/
def linkCounters (sends : List UInt64) : Stats where
  rxPackets := 0
  rxBytes := 0
  txPackets := .ofNat sends.length
  txBytes := .ofNat (sends.map (·.toNat)).sum
  dropped := 0

theorem linkCounters_append (sends : List UInt64) (length : UInt64) :
    linkCounters (sends ++ [length]) = linkCounters sends + ⟨0, 0, 1, length, 0⟩ := by
  simp [linkCounters, Stats.add_def, UInt64.ofNat_add]

section Egress

variable {send : Bytes → Env ω → Except SystemError UInt64 × Env ω} {sends : ω → List UInt64}

theorem Processor.books_egress (records : Records send sends) :
    (Processor.egress send).Books id fun world => linkCounters (sends world) := by
  intro packet failures env
  cases answered : EchoReply.ipv4 packet with
  | error reason =>
    rw [egress_of_error answered]
    exact ⟨.zero, (Stats.add_zero _).symm, (Stats.add_zero _).symm⟩
  | ok reply =>
    obtain ⟨stats, record⟩ := records reply env
    obtain ⟨result, env', called⟩ : ∃ result env', send reply env = (result, env') := ⟨_, _, rfl⟩
    rw [called] at stats record
    cases result with
    | ok length =>
      rw [egress_of_sent answered called]
      refine ⟨⟨0, 0, 1, length, 0⟩, ?_, ?_⟩
      · dsimp only at stats
        simp [stats, Stats.recordTx, Stats.add_def]
      · rw [← linkCounters_append]
        exact congrArg linkCounters record
    | error error =>
      rw [egress_of_refused answered called]
      rw [List.append_nil] at record
      exact ⟨.zero, stats.trans (Stats.add_zero _).symm, (congrArg linkCounters record).trans (Stats.add_zero _).symm⟩

theorem Processor.keepsReceived_egress (records : Records send sends) :
    (Processor.egress send).Keeps fun env => (env.stats.rxPackets, env.stats.rxBytes) := by
  intro packet failures env
  cases answered : EchoReply.ipv4 packet with
  | error reason =>
    rw [egress_of_error answered]
    rfl
  | ok reply =>
    have stats := (records reply env).1
    obtain ⟨result, env', called⟩ : ∃ result env', send reply env = (result, env') := ⟨_, _, rfl⟩
    rw [called] at stats
    have same : (env'.stats.rxPackets, env'.stats.rxBytes) = (env.stats.rxPackets, env.stats.rxBytes) := by rw [stats]
    cases result with
    | ok length =>
      rw [egress_of_sent answered called]
      exact same
    | error error =>
      rw [egress_of_refused answered called]
      exact same

theorem Engine.Accounted.egress {e : Engine UInt64 ω} {s : EngineState UInt64 ω} {a : Account}
    (records : Records send sends) (processor : e.processor = .egress send) (uncounted : e.endpoint.Uncounted sends)
    (accounted : e.Accounted sends s a) :
    s.env.stats.dropped = s.env.stats.rxPackets ∧ a.submitted = [] ∧
      s.env.stats.txPackets = .ofNat (sends s.env.world).length ∧
      s.env.stats.txBytes = .ofNat ((sends s.env.world).map (·.toNat)).sum := by
  have books : e.processor.Books id fun world => linkCounters (sends world) := by
    rw [processor]
    exact Processor.books_egress records
  have none : a.submitted = [] := by
    refine accounted.submitted_eq fun packet failures env => ?_
    rw [processor]
    exact Processor.drops_egress packet failures env
  have counted : s.env.stats = a.counters + linkCounters (sends s.env.world) :=
    accounted.counted (fun _ _ => rfl) rfl books uncounted
  have all := accounted.disposed
  rw [none, List.length_nil, Nat.zero_add] at all
  rw [counted, Account.counters, tally, none, all]
  exact ⟨rfl, rfl, UInt64.zero_add _, UInt64.zero_add _⟩

end Egress

/-- What the sends of a recording link have returned. -/
def RecordingLink.lengths (link : RecordingLink) : List UInt64 :=
  link.frames.toList.map fun frame => link.claimed.getD (UInt64.ofNat frame.length)

theorem RecordingLink.records_send : Records send lengths := by
  intro frame env
  rw [send]
  split
  next => exact ⟨rfl, (List.append_nil _).symm⟩
  next => exact ⟨rfl, by simp [Env.mapWorld, lengths]⟩

namespace Engine

/-- The counters account for every packet. Start from any state in which nothing has been counted, and let batches of any
sizes follow one another, each of which may end in an error, while the other side does to the shared memory whatever it
likes. Then what counts as released and as submitted is what a batch does on the rings in its work, with nothing more of
that when it reclaims, and modulo 2⁶⁴ the following holds at every point between calls.

* As many packets are counted as received as descriptors were released on the receive ring, and as many bytes as these say.
* When the processor counts nothing by itself, as many packets are counted as sent as descriptors were submitted on the
  transmit ring, with as many bytes, and every packet received is counted as sent or as dropped. The processors that
  answer in place are of this kind, and so is the scripted one.
* With the processor that answers out of a link every packet received is counted as dropped, nothing is submitted on the
  transmit ring, and as many packets are counted as sent as sends have succeeded, with as many bytes as these returned. -/
theorem counters_account_for_packets :
    (∀ {σ ω : Type} {e : Engine σ ω}, e.processor.Keeps (·.rings) → ∀ s,
      (e.deal s).released = s.env.rings.rx.readFrom s.rx.next (e.deal s).released.length ∧
        (e.work s).2.rx.next = s.rx.next + .ofNat (e.deal s).released.length ∧
        ((e.deal s).released ≠ [] → (e.work s).2.env.rings.rx.consumer = (e.work s).2.rx.next) ∧
        (e.work s).2.env.rings.tx = (s.env.rings.tx.writeFrom s.tx.next (e.deal s).submitted).publish
          (.ofNat (e.deal s).submitted.length) ∧
        (e.processBatch s).2 = (e.reclaim (e.work s).2).2 ∧
        (e.processBatch s).2.rx = (e.work s).2.rx ∧ (e.processBatch s).2.tx = (e.work s).2.tx) ∧
      (∀ {σ ω : Type} {e : Engine σ ω} {sends : ω → List UInt64} {s : EngineState σ ω} {a : Account},
        e.endpoint.Uncounted sends → e.Accounted sends s a →
          (e.processor.Keeps (fun env => (env.stats.rxPackets, env.stats.rxBytes)) →
            s.env.stats.rxPackets = .ofNat a.released.length ∧
              s.env.stats.rxBytes = .ofNat (a.released.map (·.len.toNat)).sum) ∧
          (e.processor.Keeps (·.stats) →
            s.env.stats.txPackets = .ofNat a.submitted.length ∧
              s.env.stats.txBytes = .ofNat (a.submitted.map (·.len.toNat)).sum ∧
              s.env.stats.rxPackets = s.env.stats.txPackets + s.env.stats.dropped)) ∧
      (∀ {ω : Type} {send : Bytes → Env ω → Except SystemError UInt64 × Env ω} {sends : ω → List UInt64},
        Records send sends →
          (Processor.egress send).Keeps (fun env => (env.stats.rxPackets, env.stats.rxBytes)) ∧
          ∀ {e : Engine UInt64 ω} {s : EngineState UInt64 ω} {a : Account}, e.processor = .egress send →
            e.endpoint.Uncounted sends → e.Accounted sends s a →
              s.env.stats.dropped = s.env.stats.rxPackets ∧ a.submitted = [] ∧
                s.env.stats.txPackets = .ofNat (sends s.env.world).length ∧
                s.env.stats.txBytes = .ofNat ((sends s.env.world).map (·.toNat)).sum) ∧
      (∀ {σ ω : Type}, (Processor.icmp : Processor σ ω).Keeps (·.stats) ∧
        (Processor.icmpv6 : Processor σ ω).Keeps (·.stats)) ∧
      ∀ verdicts, (Bench.scripted verdicts).Keeps (·.stats) := by
  refine ⟨fun {_ _ e} keepsRings s => ?_, fun uncounted accounted => ⟨?_, ?_⟩, fun records => ⟨?_, ?_⟩, ⟨?_, ?_⟩,
    fun _ _ _ _ => rfl⟩
  · obtain ⟨read, next, consumer, submitted⟩ := rings_work keepsRings s
    have batch := snd_processBatch e s
    exact ⟨read, next, consumer, submitted, batch, batch ▸ e.views_reclaim _⟩
  · exact fun keeps => accounted.rx uncounted keeps
  · exact fun keeps => accounted.tx uncounted keeps
  · exact Processor.keepsReceived_egress records
  · exact fun processor uncounted accounted => accounted.egress records processor uncounted
  · exact Processor.keeps_responder _ _ fun _ _ => rfl
  · exact Processor.keeps_responder _ _ fun _ _ => rfl

/-- An echo request and another packet have been received. Answered in place the request is sent, and that the other side
cannot be told of it makes the batch fail and changes none of the counters. Answered out of a link nothing is submitted. -/
theorem counters_account_for_packets_of_a_request :
    let l : Layout := ⟨2048, 2, by decide, by decide⟩
    let request : Bytes := [2, 0, 0, 0, 0, 1, 2, 0, 0, 0, 0, 2, 8, 0,
      0x45, 0, 0, 28, 0, 0, 0, 0, 64, 1, 0, 0, 10, 0, 0, 1, 10, 0, 0, 2, 8, 0, 0xf7, 0xfe, 0, 0, 0, 1]
    let rx : Ring Descriptor := ⟨#[⟨2048, 1, 0⟩, ⟨0, 42, 0⟩], 1, 0xffffffff, none⟩
    let env : Env RecordingLink := { Env.blank RecordingLink.fresh with
      rings := ⟨rx, .blank 1 0, .blank 2 0, .blank 2 0⟩, umem := (Area.zeroed l).write 0 request }
    let endpoint : Endpoint RecordingLink :=
      ⟨false, fun _ env => (.ok true, env), fun env => (.error (.custom "down"), env), fun env => (.ok (), env)⟩
    let inPlace : Engine Unit RecordingLink := ⟨.icmp, endpoint, 64, .wait, .ofMilliseconds 1000⟩
    let outOfLink : Engine UInt64 RecordingLink :=
      ⟨.egress RecordingLink.send, endpoint, 64, .wait, .ofMilliseconds 1000⟩
    let s := EngineState.attach l () env
    let t := (inPlace.processBatch s).2
    let u := (outOfLink.processBatch (EngineState.attach l 0 env)).2
    (inPlace.processBatch s).1.isOk = false ∧
      (t.env.stats.rxPackets = 2 ∧ t.env.stats.rxBytes = 43 ∧ t.env.stats.txPackets = 1 ∧ t.env.stats.txBytes = 42 ∧
        t.env.stats.rxPackets = t.env.stats.txPackets + t.env.stats.dropped) ∧
      u.env.stats.dropped = u.env.stats.rxPackets ∧ u.env.stats.txPackets = 1 ∧ u.env.stats.txBytes = 42 := by
  intro l request rx env endpoint inPlace outOfLink s t u
  have uncounted : endpoint.Uncounted RecordingLink.lengths := fun _ => ⟨rfl, rfl⟩
  have accounted : inPlace.Accounted RecordingLink.lengths t (Account.nothing.followedBy (inPlace.deal s)) :=
    .batch (.start rfl rfl) 64
  have released : (Account.nothing.followedBy (inPlace.deal s)).released = [⟨0, 42, 0⟩, ⟨2048, 1, 0⟩] := by
    decide +kernel
  have submitted : (Account.nothing.followedBy (inPlace.deal s)).submitted = [⟨0, 42, 0⟩] := by decide +kernel
  have accounted' : outOfLink.Accounted RecordingLink.lengths u
      (Account.nothing.followedBy (outOfLink.deal (.attach l 0 env))) :=
    .batch (.start rfl rfl) 64
  have sent : u.env.world.lengths = [42] := by decide +kernel
  have failed : (inPlace.processBatch s).1.isOk = false := by decide +kernel
  obtain ⟨-, places, link, answering, -⟩ := counters_account_for_packets
  have silent : inPlace.processor.Keeps (·.stats) := answering.1
  obtain ⟨received, all⟩ := places uncounted accounted
  obtain ⟨rxPackets, rxBytes⟩ := received fun packet state env =>
    congrArg (fun stats : Stats => (stats.rxPackets, stats.rxBytes)) (silent packet state env)
  obtain ⟨txPackets, txBytes, balance⟩ := all silent
  obtain ⟨dropped, -, linkPackets, linkBytes⟩ := (link RecordingLink.records_send).2 rfl uncounted accounted'
  rw [released] at rxPackets rxBytes
  rw [submitted] at txPackets txBytes
  rw [sent] at linkPackets linkBytes
  exact ⟨failed, ⟨rxPackets, rxBytes, txPackets, txBytes, balance⟩, dropped, linkPackets, linkBytes⟩

end Engine

end XdpEcho
