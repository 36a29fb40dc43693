import XdpEcho.Bench.Basic
import XdpEcho.Proofs.Engine.Lockstep
import XdpEcho.Proofs.Engine.Turns
import XdpEcho.Proofs.Simulator.Runs

/-!
# How an engine learns of packets does not matter

A waiting engine and a busy one take different turns. While packets are waiting both do nothing but batches all the same,
and a batch takes in at least one packet, so the packet at which the stop flag goes up is reached by both, after the same
batches.

* `EngineState.Alike` — states that differ in nothing but what is out of view.
* `Engine.Undisturbed`, `Engine.lockstep_alike` — a batch that does not go by what is out of view.
* `Engine.Judged` — the state right after some packet, counted from now on.
* `Engine.run_whole_batches` — runs are whole batches, and the two pollers end in states that are alike.
-/

namespace XdpEcho

variable {σ ω κ α : Type} {view : ω → κ}

/-! ### Out of view -/

/-- The surroundings are the same but for the rest of them, and there the difference is out of view. -/
def Env.Alike (view : ω → κ) (env env' : Env ω) : Prop :=
  ∃ world, env' = { env with world } ∧ view world = view env.world

/-- The states are the same but for the rest of their surroundings, and there the difference is out of view. -/
def EngineState.Alike (view : ω → κ) (s t : EngineState σ ω) : Prop :=
  ∃ world, t = { s with env := { s.env with world } } ∧ view world = view s.env.world

theorem EngineState.Alike.stop {s t : EngineState σ ω} (alike : s.Alike view t) : t.env.stop = s.env.stop := by
  obtain ⟨world, rfl, -⟩ := alike
  rfl

theorem EngineState.Alike.symm {s t : EngineState σ ω} (alike : s.Alike view t) : t.Alike view s := by
  obtain ⟨world, rfl, same⟩ := alike
  exact ⟨s.env.world, rfl, same.symm⟩

theorem EngineState.Alike.trans {s t u : EngineState σ ω} (alike : s.Alike view t) (further : t.Alike view u) :
    s.Alike view u := by
  obtain ⟨world, rfl, same⟩ := alike
  obtain ⟨world', rfl, same'⟩ := further
  exact ⟨world', rfl, same'.trans same⟩

theorem EngineState.Alike.trans_env {s t : EngineState σ ω} (alike : s.Alike view t) {env : Env ω}
    (further : t.env.Alike view env) : s.Alike view { t with env } := by
  obtain ⟨world, rfl, same⟩ := alike
  obtain ⟨world', rfl, same'⟩ := further
  exact ⟨world', rfl, same'.trans same⟩

/-- A call that does not go by what is out of view. -/
def Heedless (view : ω → κ) (call : Env ω → α × Env ω) : Prop :=
  ∀ {env env' : Env ω}, env.Alike view env' →
    (call env').1 = (call env).1 ∧ (call env).2.Alike view (call env').2

namespace Engine

variable {e : Engine σ ω} {l : Layout} {s t s' : EngineState σ ω}

/-- Neither the processor nor a notice of the transmit ring goes by what is out of view. -/
structure Unaware (e : Engine σ ω) (view : ω → κ) : Prop where
  process : ∀ (packet : Bytes) (state : σ), Heedless view fun env =>
    (((e.processor.process packet state env).1, (e.processor.process packet state env).2.1,
      (e.processor.process packet state env).2.2.1), (e.processor.process packet state env).2.2.2)
  kickTx : Heedless view e.endpoint.kickTx

/-- Once the stop flag is up, neither the processor nor the other side takes it down. -/
structure LeavesUp (e : Engine σ ω) : Prop where
  process : ∀ (packet : Bytes) (state : σ) (env : Env ω), env.stop = true →
    (e.processor.process packet state env).2.2.2.stop = true
  kickTx : ∀ env : Env ω, env.stop = true → (e.endpoint.kickTx env).2.stop = true

/-! ### Batches of states that are alike -/

theorem judge_alike (unaware : e.Unaware view) (d : Descriptor) (alike : s.Alike view t) :
    (e.judge d t).1 = (e.judge d s).1 ∧ (e.judge d s).2.Alike view (e.judge d t).2 := by
  obtain ⟨world, rfl, same⟩ := alike
  rw [judge, judge]
  cases s.env.umem.read? d.addr d.len.toNat with
  | none => exact ⟨rfl, world, rfl, same⟩
  | some packet =>
    have around : s.env.Alike view { s.env with world } := ⟨world, rfl, same⟩
    obtain ⟨answers, world', rest, same'⟩ := unaware.process packet s.processorState around
    obtain ⟨verdict, answers⟩ := Prod.mk.inj answers
    obtain ⟨after, state⟩ := Prod.mk.inj answers
    dsimp only at rest
    refine ⟨verdict, world', ?_, same'⟩
    dsimp only
    rw [after, state, rest]

/-- Batches do the same to states that are alike, however the engine learns of packets. -/
theorem lockstep_alike (unaware : e.Unaware view) (poller : Poller) :
    e.Lockstep { e with poller } (EngineState.Alike view) where
  drain := by
    rintro s _ ⟨world, rfl, same⟩
    exact ⟨rfl, world, rfl, same⟩
  replenish := by
    rintro s _ ⟨world, rfl, same⟩
    exact ⟨world, rfl, same⟩
  judge desc _ _ alike := judge_alike unaware desc alike
  settle descs verdicts := by
    rintro s _ ⟨world, rfl, same⟩
    exact ⟨world, rfl, same⟩
  kicks := by
    rintro s _ ⟨world, rfl, -⟩
    exact ⟨rfl, rfl⟩
  kickTx := by
    rintro s _ ⟨world, rfl, same⟩
    have around : s.env.Alike view { s.env with world } := ⟨world, rfl, same⟩
    obtain ⟨answer, world', rest, same'⟩ := unaware.kickTx around
    refine ⟨answer, world', ?_, same'⟩
    dsimp only
    rw [rest]
  collect := by
    rintro s _ ⟨world, rfl, same⟩
    exact ⟨world, rfl, same⟩

theorem processBatch_alike (unaware : e.Unaware view) (poller : Poller) (alike : s.Alike view t)
    {result : Except SocketError Nat} {u : EngineState σ ω} (batch : e.processBatch s = (result, u)) :
    ∃ v, ({ e with poller } : Engine σ ω).processBatch t = (result, v) ∧ u.Alike view v := by
  obtain ⟨answer, after⟩ := (lockstep_alike unaware poller).processBatch alike
  rw [batch] at answer after
  exact ⟨(({ e with poller } : Engine σ ω).processBatch t).2, Prod.ext answer rfl, after⟩

/-! ### The packet that raises the flag -/

namespace LeavesUp

theorem judge (leaves : e.LeavesUp) (d : Descriptor) (up : s.env.stop = true) : (e.judge d s).2.env.stop = true := by
  rw [Engine.judge]
  cases s.env.umem.read? d.addr d.len.toNat with
  | none => exact up
  | some packet => exact leaves.process packet s.processorState s.env up

theorem judgeAll (leaves : e.LeavesUp) (descs : List Descriptor) (up : s.env.stop = true) :
    (e.judgeAll descs s).2.env.stop = true := by
  induction descs generalizing s with
  | nil => exact up
  | cons d rest ih => exact ih (leaves.judge d up)

theorem reclaim (leaves : e.LeavesUp) (up : s.env.stop = true) : (e.reclaim s).2.env.stop = true := by
  exact e.reclaim_invariant (P := fun t => t.env.stop = true) up (leaves.kickTx s.env up) fun up => up

end LeavesUp

/-- The state right after the processor has run over a packet, in the midst of its batch, when that packet is the given
one of those that are processed from now on, the next one being the first. -/
inductive Judged (e : Engine σ ω) : Nat → EngineState σ ω → EngineState σ ω → Prop
  | here {s t u : EngineState σ ω} {descs : List Descriptor} {verdicts : List Verdict} {before : Nat}
      (drained : e.drain s = (descs, t)) (within : before < descs.length)
      (judged : e.judgeAll (descs.take (before + 1)) t.replenish = (verdicts, u)) : Judged e (before + 1) s u
  | later {s t u : EngineState σ ω} {received ahead : Nat} (batch : e.processBatch s = (.ok received, t))
      (rest : Judged e ahead t u) : Judged e (received + ahead) s u

theorem judgeAll_append (e : Engine σ ω) (first later : List Descriptor) (s : EngineState σ ω) :
    (e.judgeAll (first ++ later) s).2 = (e.judgeAll later (e.judgeAll first s).2).2 := by
  induction first generalizing s with
  | nil => rfl
  | cons d rest ih => exact ih (e.judge d s).2

/-- A flag that is raised in the midst of a batch is up when the batch ends. -/
theorem up_of_judged (leaves : e.LeavesUp) {number : Nat} (pos : 0 < number) (within : number ≤ (e.work s).1.length)
    (raised : ∀ u, e.Judged number s u → u.env.stop = true) : (e.processBatch s).2.env.stop = true := by
  obtain ⟨descs, v, drained⟩ : ∃ descs v, e.drain s = (descs, v) := ⟨_, _, rfl⟩
  obtain ⟨before, rfl⟩ := Nat.exists_eq_succ_of_ne_zero (Nat.ne_of_gt pos)
  have worked : (e.work s).2.env.stop = true := by
    simp only [work, drained] at within ⊢
    split
    next none =>
      rw [List.isEmpty_iff.mp none] at within
      cases within
    next =>
      have up := leaves.judgeAll (descs.drop (before + 1)) (raised _ (.here drained within rfl))
      rwa [← judgeAll_append, List.take_append_drop] at up
  rw [snd_processBatch]
  exact leaves.reclaim worked

/-! ### Batches up to the flag -/

/-- Batches that follow one another, each begun while the stop flag is down, in each of which something is received. -/
inductive Batches (e : Engine σ ω) : List Nat → EngineState σ ω → EngineState σ ω → Prop
  | none (s : EngineState σ ω) : Batches e [] s s
  | more {s t u : EngineState σ ω} {received : Nat} {later : List Nat} (down : s.env.stop = false)
      (batch : e.processBatch s = (.ok received, t)) (some : received ≠ 0) (rest : Batches e later t u) :
      Batches e (received :: later) s u

theorem stopped_alike (alike : s.Alike view t) : (stopped s).Alike view (stopped t) := by
  obtain ⟨world, rfl, same⟩ := alike
  exact ⟨world, rfl, same⟩

/-- A busy engine handles the same batches, and turns to nothing else meanwhile. -/
theorem Batches.turns (unaware : e.Unaware view) {received : List Nat} (batches : e.Batches received s t)
    {s' : EngineState σ ω} (alike : s.Alike view s') :
    ∃ t', ({ e with poller := .busy } : Engine σ ω).Turns received s' t' ∧ t.Alike view t' := by
  induction batches generalizing s' with
  | none s => exact ⟨s', .none s', alike⟩
  | @more s v u count later down batch some _ ih =>
    obtain ⟨v', batch', after⟩ := processBatch_alike unaware .busy alike batch
    obtain ⟨t', turns, alike'⟩ := ih after
    have quiet : ¬ (count = 0 ∧ e.endpoint.needWakeup ∧ v'.env.rings.fill.needsWakeup) := fun asked => some asked.1
    exact ⟨t', .more (alike.stop.trans down) (.spun rfl batch' quiet) turns, alike'⟩

/-! ### A waiting engine -/

/-- From the given state on, no call of the waiting engine fails, and a wait changes nothing but what is out of view. -/
structure Undisturbed (e : Engine σ ω) (view : ω → κ) (s : EngineState σ ω) : Prop where
  waits : ∀ {received : List Nat} {u : EngineState σ ω} {ready : Bool} {env : Env ω},
    ({ e with poller := .wait } : Engine σ ω).Turns received s u →
      e.endpoint.waitReadable e.pollTimeout u.env = (.ok ready, env) → u.env.Alike view env
  succeeds : ∀ (looks : Nat) (error : SocketError),
    (({ e with poller := .wait } : Engine σ ω).run looks s).1 ≠ some (.error error)

/-- A turn of the waiting engine is a batch of any state that is like the one it waits in. -/
theorem Undisturbed.turn (undisturbed : e.Undisturbed view s') (unaware : e.Unaware view) (alike : s.Alike view s')
    (down : s'.env.stop = false) :
    ∃ t t', e.processBatch s = (.ok (e.work s).1.length, t) ∧
      ({ e with poller := .wait } : Engine σ ω).Turn (e.work s).1.length s' t' ∧ t.Alike view t' ∧
      e.Undisturbed view t' := by
  obtain ⟨result, t, batch⟩ : ∃ result t, e.processBatch s = (result, t) := ⟨_, _, rfl⟩
  obtain ⟨t', turned⟩ : ∃ t', ({ e with poller := .wait } : Engine σ ω).turn s' = (.ok (), t') := by
    have succeeds := undisturbed.succeeds 1
    rw [run, if_neg (by rw [down]; decide)] at succeeds
    split at succeeds
    next error _ _ => exact absurd rfl (succeeds error)
    next t' turned => exact ⟨t', turned⟩
  obtain ⟨count, turned⟩ := turn_eq_ok_iff.mp turned
  have turn := turned
  cases turned with
  | waited _ call batch' =>
    have alike' := undisturbed.waits (.none s') call
    obtain ⟨v, batched, after⟩ := processBatch_alike unaware .wait (alike.trans_env alike') batch
    rw [batched] at batch'
    cases batch'
    obtain ⟨-, rfl⟩ := processBatch_eq_ok_iff.mp batch
    refine ⟨t, t', batch, turn, after, fun turns => undisturbed.waits (.more down turn turns), fun looks => ?_⟩
    rw [← run_of_turn down turn]
    exact undisturbed.succeeds (looks + 1)
  | spun spins => cases spins
  | woke spins => cases spins

/-- With enough packets received, a waiting engine gets to the batch in which the flag is raised, by batches in each of
which something is received. -/
theorem exists_batches {held : ω → Custody} (confined : e.Confined l held) (unaware : e.Unaware view)
    (leaves : e.LeavesUp) (some : e.batchCount ≠ 0) (orderly : Orderly l (held s.env.world) s) {number : Nat}
    (pos : 0 < number) (enough : number ≤ s.env.rings.rx.pending.length)
    (raised : ∀ u, e.Judged number s u → u.env.stop = true) {s' : EngineState σ ω} (alike : s.Alike view s')
    (undisturbed : e.Undisturbed view s') :
    ∃ received t t', e.Batches received s t ∧ ({ e with poller := .wait } : Engine σ ω).Turns received s' t' ∧
      t.Alike view t' ∧ t.env.stop = true := by
  induction number using Nat.strongRecOn generalizing s s' with
  | ind number ih =>
    cases flag : s.env.stop with
    | true => exact ⟨[], s, s', .none s, .none s', alike, flag⟩
    | false =>
      have down := alike.stop.trans flag
      obtain ⟨t, t', batch, turned, after, later⟩ := undisturbed.turn unaware alike down
      obtain ⟨left, -, progress⟩ := processBatch_received confined orderly batch
      have received : (e.work s).1.length ≠ 0 := by
        intro none
        rw [progress some none] at enough
        exact Nat.not_lt_of_le enough pos
      by_cases within : number ≤ (e.work s).1.length
      · have up := up_of_judged leaves pos within raised
        rw [batch] at up
        exact ⟨[_], t, t', .more flag batch received (.none t), .more down turned (.none t'), after, up⟩
      · have orderly' : Orderly l (held t.env.world) t := by
          have orderly' := processBatch_orderly confined orderly
          rwa [batch] at orderly'
        have waiting := left.length_le
        rw [List.length_drop] at waiting
        have raised' : ∀ u, e.Judged (number - (e.work s).1.length) t u → u.env.stop = true := by
          intro u judged
          refine raised u ?_
          have judged' := Judged.later batch judged
          rwa [Nat.add_sub_cancel' (by omega)] at judged'
        obtain ⟨counts, u, u', batches, turns, finally', up⟩ :=
          ih (number - (e.work s).1.length) (by omega) orderly' (by omega) (by omega) raised' after later
        exact ⟨_ :: counts, u, u', .more flag batch received batches, .more down turned turns, finally', up⟩

/-! ### Either way of polling -/

/-- Running is handling whole batches, and how the engine learns of packets does not matter.

A run ends without an error exactly when it finds the flag up after some turns, each of which it began with the flag down
and each of which is one batch, with nothing but one wait before it or, after a batch that received nothing, one notice
of the fill ring behind it; the run changes nothing else. As long as the other side does to the rings only what it may,
nothing is left in between that has been taken off the receive ring and not been processed: the view stands where the
ring stands, and that is as many slots further as packets were received.

When the flag goes up with some packet, and that many packets have been received already, a waiting engine and a busy
one return after the same number of looks at the flag and leave the same behind but for what is out of view. They need
not agree on what a wait does out of view, nor does it matter what it answers, as long as no call of the waiting engine
fails. -/
theorem run_whole_batches (e : Engine σ ω) (s : EngineState σ ω) :
    (∀ {looks : Nat} {t : EngineState σ ω}, e.run looks s = (some (.ok ()), t) ↔
      ∃ received u, received.length < looks ∧ e.Turns received s u ∧ u.env.stop = true ∧ t = stopped u) ∧
    (∀ {l : Layout} {held : ω → Custody}, e.Attended l held → Orderly l (held s.env.world) s →
      ∀ {received : List Nat} {u : EngineState σ ω}, e.Turns received s u →
        u.rx.next = u.env.rings.rx.consumer ∧
          u.env.rings.rx.consumer = s.env.rings.rx.consumer + .ofNat received.sum) ∧
    ∀ {κ : Type} {view : ω → κ} {l : Layout} {held : ω → Custody} {number : Nat}, 0 < e.batchSize → e.batchSize < 2 ^ 32 →
      e.Confined l held → Orderly l (held s.env.world) s → e.Unaware view → e.Undisturbed view s → e.LeavesUp →
      0 < number → number ≤ s.env.rings.rx.pending.length → (∀ u, e.Judged number s u → u.env.stop = true) →
        ∃ turns t u, (∀ looks, turns < looks →
          ({ e with poller := .wait } : Engine σ ω).run looks s = (some (.ok ()), t) ∧
            ({ e with poller := .busy } : Engine σ ω).run looks s = (some (.ok ()), u)) ∧ t.Alike view u := by
  refine ⟨run_eq_ok_iff, fun attended orderly _ _ turns => ?_, ?_⟩
  · obtain ⟨after, released⟩ := turns.orderly attended orderly
    exact ⟨after.rx.next, released⟩
  · intro κ view l held number pos lt confined orderly unaware undisturbed leaves first enough raised
    have alike : s.Alike view s := ⟨_, rfl, rfl⟩
    obtain ⟨received, t, t', batches, waited, same, up⟩ := exists_batches confined unaware leaves
      (batchCount_ne_zero pos lt) orderly first enough raised alike undisturbed
    obtain ⟨u', spun, same'⟩ := batches.turns unaware alike
    refine ⟨received.length, stopped t', stopped u', fun looks more => ⟨?_, ?_⟩, stopped_alike (same.symm.trans same')⟩
    · exact run_eq_ok_iff.mpr ⟨received, t', more, waited, same.stop.trans up, rfl⟩
    · exact run_eq_ok_iff.mpr ⟨received, u', more, spun, same'.stop.trans up, rfl⟩

/-- Four packets have been received, a batch holds three, and the second packet raises the flag. Both engines complete
the batch and leave the fourth packet where it is, though the wait says that there is nothing to read, and wakes the
other side. -/
theorem run_whole_batches_up_to_the_second_packet :
    let l : Layout := ⟨2048, 4, by decide, by decide⟩
    let mirror : Processor Nat Simulator :=
      ⟨"mirror", fun packet n env => (.forward, packet, n + 1, { env with stop := env.stop || n == 1 })⟩
    let endpoint : Endpoint Simulator :=
      { Simulator.endpoint true with
        waitReadable := fun _ env => (.ok false, env.mapWorld fun world => { world with wakeups := world.wakeups + 1 }) }
    let e : Engine Nat Simulator := ⟨mirror, endpoint, 3, .wait, .ofMilliseconds 1000⟩
    let s₀ := e.start l 0 { Env.blank Simulator.idle with
      rings := ⟨.blank 4 0xffffffff, .blank 4 0, .blank 4 0xfffffffe, .blank 4 7⟩, umem := .zeroed l }
    let s := [Move.deliver [1], .deliver [2], .deliver [3], .deliver [4]].foldl (e.act l) s₀
    s.env.rings.rx.pending.length = 4 ∧
      ∃ turns t u, (∀ looks, turns < looks →
        ({ e with poller := .wait } : Engine Nat Simulator).run looks s = (some (.ok ()), t) ∧
          ({ e with poller := .busy } : Engine Nat Simulator).run looks s = (some (.ok ()), u)) ∧
        t.Alike (fun world => (world.inFlight, world.kicks)) u := by
  intro l mirror endpoint
  have unfailing : endpoint.Unfailing := by
    constructor
    · intro _ _ _ failed
      cases failed
    · intro _ _ failed
      cases failed
    · intro _ _ failed
      cases failed
  intro e s₀ s
  have confined : e.Confined l Simulator.custody := ⟨fun _ _ _ => rfl, fun _ _ _ => rfl, fun _ => .refl⟩
  have start : e.Reachable l Simulator.custody s₀ :=
    .start 0 ⟨⟨4, 0xffffffff, rfl⟩, ⟨4, 0, rfl⟩, ⟨4, 0xfffffffe, rfl⟩, ⟨4, 7, rfl⟩⟩ rfl
  have reachable : e.Reachable l Simulator.custody s :=
    (((start.act confined (.deliver [1])).act confined (.deliver [2])).act confined (.deliver [3])).act confined
      (.deliver [4])
  have unaware : e.Unaware fun world => (world.inFlight, world.kicks) := by
    constructor
    · rintro packet state env _ ⟨world, rfl, same⟩
      exact ⟨rfl, world, rfl, same⟩
    · rintro env _ ⟨world, rfl, same⟩
      obtain ⟨inFlight, kicks⟩ := Prod.mk.inj same
      exact ⟨rfl, _, rfl, Prod.ext inFlight (congrArg (· + 1) kicks)⟩
  have undisturbed : e.Undisturbed (fun world => (world.inFlight, world.kicks)) s := by
    constructor
    · intro _ _ _ _ _ called
      cases called
      exact ⟨_, rfl, rfl⟩
    · exact fun looks => run_of_unfailing (e := { e with poller := .wait }) unfailing looks s
  have leaves : e.LeavesUp := ⟨fun packet n env up => by simp [e, mirror, up], fun env up => up⟩
  have raised (u : EngineState Nat Simulator) (judged : e.Judged 2 s u) : u.env.stop = true := by
    generalize second : 2 = number at judged
    cases judged with
    | @here _ _ _ _ _ before drained within judged =>
      obtain rfl : before = 1 := by omega
      have up : (e.judgeAll ((e.drain s).1.take 2) (e.drain s).2.replenish).2.env.stop = true := by decide +kernel
      rw [drained] at up
      dsimp only at up
      rwa [judged] at up
    | later batch rest =>
      have received : (e.work s).1.length = 3 := by decide +kernel
      have := (processBatch_eq_ok_iff.mp batch).2
      omega
  have waiting : s.env.rings.rx.pending.length = 4 := by decide +kernel
  exact ⟨waiting, (run_whole_batches e s).2.2 (by decide) (by decide) confined (reachable.orderly confined) unaware
    undisturbed leaves (by decide) (waiting.symm ▸ by decide) raised⟩

end Engine

end XdpEcho
