import XdpEcho.Proofs.Engine.Accounts
import XdpEcho.Proofs.Engine.BatchSize

/-!
# When the other side cannot be told

A batch fails when the other side cannot be told of the transmit ring. By then it has taken descriptors off the receive
ring, offered frames, and put replies on the transmit ring, none of which is undone, and it has not collected anything.
Nothing is lost by that: what is left to do is what the next batch does anyway.

* `Endpoint.Inert`, `EngineState.Untouched` — telling the other side does nothing to what the engine shares with it.
* `Engine.Deals`, `Engine.work_deals` — what a batch has done before it collects.
* `Engine.processBatch_eq_error` — a batch that fails stops there.
* `Engine.failed_kick_costs_time` — and the next one makes up for it.
-/

namespace XdpEcho

variable {σ ω κ : Type} {held : ω → Custody} {link : ω → κ}

/-! ### Calls that change nothing -/

/-- Whether or not telling the other side of the transmit ring succeeds, it changes neither the shared memory, nor what
the other side holds, nor the link of the processor. -/
def Endpoint.Inert (p : Endpoint ω) (held : ω → Custody) (link : ω → κ) : Prop :=
  ∀ env : Env ω, ∃ world, (p.kickTx env).2 = { env with world } ∧ held world = held env.world ∧ link world = link env.world

/-- The endpoint, but telling the other side of the transmit ring is not even tried when there is a fault. -/
def Endpoint.faulty (fault : Env ω → Option SystemError) (p : Endpoint ω) : Endpoint ω :=
  { p with
    kickTx := fun env =>
      match fault env with
      | none => p.kickTx env
      | some error => (.error error, env) }

theorem Endpoint.Quiet.inert {p : Endpoint ω} (quiet : p.Quiet held link) : p.Inert held link := by
  intro env
  obtain ⟨world, called, custody, same⟩ := quiet env
  rw [called]
  exact ⟨world, rfl, custody, same⟩

theorem Endpoint.Inert.faulty {p : Endpoint ω} (inert : p.Inert held link) (fault : Env ω → Option SystemError) :
    (p.faulty fault).Inert held link := by
  intro env
  cases found : fault env with
  | none =>
    simp only [Endpoint.faulty, found]
    exact inert env
  | some error =>
    simp only [Endpoint.faulty, found]
    exact ⟨env.world, rfl, rfl, rfl⟩

/-- The engine has gone from one state to another, and nothing has changed but the rest of the surroundings, and there
neither what the other side holds nor the link of the processor. -/
def EngineState.Untouched (held : ω → Custody) (link : ω → κ) (s t : EngineState σ ω) : Prop :=
  ∃ world, t = { s with env := { s.env with world } } ∧ held world = held s.env.world ∧ link world = link s.env.world

namespace EngineState.Untouched

variable {s t u : EngineState σ ω}

theorem symm (untouched : Untouched held link s t) : Untouched held link t s := by
  obtain ⟨world, rfl, custody, same⟩ := untouched
  exact ⟨s.env.world, rfl, custody.symm, same.symm⟩

theorem trans (first : Untouched held link s t) (second : Untouched held link t u) : Untouched held link s u := by
  obtain ⟨world, rfl, custody, same⟩ := first
  obtain ⟨world', rfl, custody', same'⟩ := second
  exact ⟨world', rfl, custody'.trans custody, same'.trans same⟩

/-- Collecting goes by what is shared. -/
theorem collect (untouched : Untouched held link s t) : Untouched held link (Engine.collect s) (Engine.collect t) := by
  obtain ⟨world, rfl, custody, same⟩ := untouched
  exact ⟨world, rfl, custody, same⟩

end EngineState.Untouched

theorem Endpoint.Inert.untouched {p : Endpoint ω} (inert : p.Inert held link) (s : EngineState σ ω) :
    s.Untouched held link { s with env := (p.kickTx s.env).2 } := by
  obtain ⟨world, called, custody, same⟩ := inert s.env
  rw [called]
  exact ⟨world, rfl, custody, same⟩

namespace Engine

variable {e : Engine σ ω} {l : Layout} {c : Custody} {s t : EngineState σ ω}

theorem confined_of_inert (keeps : e.processor.Keeps (Env.port held)) (inert : e.endpoint.Inert held link) :
    e.Confined l held where
  keepsRings packet state env := congrArg Prod.fst (keeps packet state env)
  keepsCustody packet state env := congrArg Prod.snd (keeps packet state env)
  kickTx env := by
    obtain ⟨world, called, custody, -⟩ := inert env
    have same : Env.port held { env with world } = env.port held := Prod.ext rfl custody
    rw [called, same]

/-! ### The work on a batch -/

/-- The engine has gone from one state to another by dealing with a batch: the oldest received descriptors are copied and
released, some of the free frames are offered, and the processor runs over the packets; those that it forwards are queued
for sending and counted as outstanding, as far as there is room, and the frames of the others are given back. Nothing is
collected. -/
structure Deals (e : Engine σ ω) (l : Layout) (s t : EngineState σ ω) (frames rest : List UInt64)
    (sent returned : List Descriptor) : Prop where
  received : (e.work s).1 ++ t.env.rings.rx.pending = s.env.rings.rx.pending
  released : t.env.rings.rx = s.env.rings.rx.consume (.ofNat (e.work s).1.length)
  offered : t.env.rings.fill = s.env.rings.fill.push frames
  stack : frames ++ rest = s.pool.stack
  split : triage (s.env.rings.tx.freeSlots 0)
    ((e.work s).1.zip (e.judgeAll (e.work s).1 (e.drain s).2.replenish).1) = (sent, returned)
  queued : t.env.rings.tx = s.env.rings.tx.push (sent.map .outgoing)
  pending : t.env.rings.tx.pending = s.env.rings.tx.pending ++ sent.map .outgoing
  counted : t.outstandingTx.toNat = s.outstandingTx.toNat + sent.length
  freed : s.pool.Restacked t.pool (((returned.map (·.addr)).map l.frameBase).reverse ++ rest)
  stats : t.env.stats = (e.judged s).env.stats + tally (e.work s).1 sent returned
  packets : t.env.umem = (e.judged s).env.umem
  processor : t.processorState = (e.judged s).processorState
  completion : t.env.rings.completion = s.env.rings.completion
  collected : t.completion = s.completion

/-- The frames on top of the stack are offered. -/
theorem replenish_eq (orderly : Orderly l c s) :
    ∃ fill pool frames rest, s.replenish = { s with
        fill, pool, env := { s.env with rings := { s.env.rings with fill := s.env.rings.fill.push frames } } } ∧
      frames ++ rest = s.pool.stack ∧ s.pool.Restacked pool rest := by
  obtain ⟨fill, pool, refilled, -, restacked⟩ :=
    EngineState.refill_eq orderly.fill orderly.pool (.ofNat s.pool.freeCount)
  refine ⟨fill, pool, _, _, ?_, List.take_append_drop _ _, restacked⟩
  rw [EngineState.replenish, refilled]

/-- What is sent is counted among all frames, so adding it to the count does not wrap. -/
theorem Sends.toNat_outstandingTx {sent : List Descriptor} (sends : Sends s t sent) (before : Orderly l c s)
    (after : Orderly l c t) : t.outstandingTx.toNat = s.outstandingTx.toNat + sent.length := by
  have outstanding := before.outstanding
  have outstanding' := after.outstanding
  rw [sends.pending, sends.completion, List.length_append] at outstanding'
  omega

/-- What a batch has dealt with has nothing to do with the rest of the surroundings. -/
theorem Deals.untouched {frames rest : List UInt64} {sent returned : List Descriptor} {u : EngineState σ ω}
    (deals : e.Deals l s t frames rest sent returned) (untouched : t.Untouched held link u) :
    e.Deals l s u frames rest sent returned := by
  obtain ⟨world, rfl, -, -⟩ := untouched
  exact { deals with }

/-- A batch that has received nothing has nothing to deal with. -/
theorem deals_of_nil {rx : Consumer} (drained : e.drain s = ([], { s with rx })) (sound : s.pool.Sound) :
    e.Deals l s (e.work s).2 [] s.pool.stack [] [] := by
  have work : e.work s = ([], { s with rx }) := by
    simp only [Engine.work, drained]
    rfl
  have judged : e.judged s = ({ s with rx } : EngineState σ ω).replenish := by
    simp only [Engine.judged, drained]
    rfl
  have nothing : tally [] [] [] = .zero := rfl
  rw [work]
  constructor
  case received =>
    rw [work]
    rfl
  case released =>
    rw [work]
    exact s.env.rings.rx.consume_zero.symm
  case offered => exact s.env.rings.fill.push_nil.symm
  case stack => rfl
  case split => rw [work, List.zip_nil_left, triage_nil]
  case queued => exact s.env.rings.tx.push_nil.symm
  case pending => exact (List.append_nil _).symm
  case counted => rfl
  case freed => exact .refl sound
  case stats =>
    rw [work, judged, nothing, Stats.add_zero]
    rfl
  case packets =>
    rw [judged]
    rfl
  case processor =>
    rw [judged]
    rfl
  case completion => rfl
  case collected => rfl

/-- A batch that has received something offers frames, runs the processor, and settles what becomes of the frames. -/
theorem deals_of_some (confined : e.Confined l held) (orderly : Orderly l (held s.env.world) s) {rx : Consumer}
    {d : Descriptor} {descs later : List Descriptor} (drained : e.drain s = (d :: descs, { s with rx }))
    (tracks : rx.Tracks s.env.rings.rx) (oldest : d :: descs ++ later = s.env.rings.rx.pending)
    (known : (d :: descs).length ≤ (rx.limit - rx.next).toNat) :
    ∃ frames rest sent returned, e.Deals l s (e.work s).2 frames rest sent returned := by
  have worked := work_orderly confined orderly
  obtain ⟨custody, queued, sends⟩ := work_sends confined orderly
  have drainedOrderly : Orderly l (held s.env.world) { s with rx } := { orderly with rx := tracks }
  have supplied := drainedOrderly.replenish
  obtain ⟨fill, pool, frames, rest, replenished, stack, restacked⟩ := replenish_eq drainedOrderly
  obtain ⟨verdicts, processorState, env, judgedAll, length, same⟩ :=
    judgeAll_eq confined.keepsPort (fun _ _ => rfl) (fun _ _ _ => rfl) (d :: descs)
      ({ s with rx } : EngineState σ ω).replenish
  obtain ⟨rings, custody'⟩ := Prod.mk.inj same
  have after := supplied.around processorState rings
  rw [replenished] at judgedAll rings after
  obtain ⟨sent, returned, split⟩ : ∃ sent returned,
    triage (env.rings.tx.freeSlots 0) ((d :: descs).zip verdicts) = (sent, returned) := ⟨_, _, rfl⟩
  obtain ⟨rx', tx, settled, -, -, left, pending⟩ := settle_eq after.rx after.tx known length split
  have perm := perm_of_triage length split
  have received : d :: descs ++ later = env.rings.rx.pending := by
    rw [rings]
    exact oldest
  have back := after.restacked received perm
  have fewer := perm.length_eq
  rw [List.length_append] at fewer
  have work : e.work s = (d :: descs, settle (d :: descs) verdicts { s with rx, fill, pool, processorState, env }) := by
    simp only [Engine.work, drained, replenished, process, judgedAll]
    rfl
  have judged : e.judged s = { s with rx, fill, pool, processorState, env } := by
    simp only [Engine.judged, drained, replenished, judgedAll]
  refine ⟨frames, rest, sent, returned, ?_⟩
  dsimp only at rings
  rw [custody] at worked
  have added := sends.toNat_outstandingTx orderly worked
  have queue := sends.pending
  rw [work, settled] at added queue ⊢
  constructor
  case received =>
    dsimp only
    rw [work, left, rings, ← oldest, List.drop_left]
  case released =>
    dsimp only
    rw [work, rings]
  case offered =>
    dsimp only
    rw [rings]
  case stack => exact stack
  case split =>
    rw [work, drained]
    dsimp only
    rw [replenished, judgedAll]
    rw [rings] at split
    exact split
  case queued =>
    dsimp only
    rw [rings]
  case pending =>
    dsimp only
    rw [pending, rings]
  case counted =>
    dsimp only at queue
    rw [pending, rings] at queue
    rw [added, ← List.append_cancel_left queue, List.length_map]
  case freed =>
    have both := restacked.trans back
    rw [restacked.stack] at both
    exact both
  case stats =>
    rw [work, judged]
    exact record_eq_tally _ _ (Nat.lt_of_le_of_lt known (UInt32.toNat_lt _)) (by omega)
  case packets => rw [judged]
  case processor => rw [judged]
  case completion =>
    dsimp only
    rw [rings]
  case collected => rfl

theorem work_deals (confined : e.Confined l held) (orderly : Orderly l (held s.env.world) s) :
    ∃ frames rest sent returned, e.Deals l s (e.work s).2 frames rest sent returned := by
  obtain ⟨descs, rx, drained, tracks, ⟨later, oldest⟩, known, -, -⟩ := e.drain_eq orderly.rx
  cases descs with
  | nil => exact ⟨[], s.pool.stack, [], [], deals_of_nil drained orderly.pool⟩
  | cons d descs => exact deals_of_some confined orderly drained tracks oldest known

/-- A batch that finds nothing received does nothing before it collects. -/
theorem work_eq_of_nil (e : Engine σ ω) (tracks : s.rx.Tracks s.env.rings.rx) (empty : s.env.rings.rx.pending = []) :
    e.work s = ([], s) := by
  have none := Ring.pending_eq_nil_iff.mp empty
  have unknown : s.rx.limit - s.rx.next = 0 := by
    have known := tracks.known
    rw [none, UInt32.toNat_zero] at known
    exact UInt32.toNat_inj.mp (Nat.le_zero.mp known)
  have level : s.env.rings.rx.producer - s.rx.next = 0 := by
    rw [tracks.next]
    exact none
  have fresh : s.env.rings.rx.producer = s.rx.limit :=
    (UInt32.sub_eq_iff_eq_add.mp level).trans (UInt32.sub_eq_iff_eq_add.mp unknown).symm
  have least : min (0 : UInt32) e.batchCount = 0 := by
    rw [← UInt32.toNat_inj, UInt32.toNat_min]
    exact Nat.zero_min _
  have drained : e.drain s = ([], s) := by
    simp only [drain, Consumer.peek, unknown, least, fresh]
    rfl
  simp only [work, drained]
  rfl

/-- The work on a batch has nothing to do with the endpoint. -/
theorem judgeAll_withEndpoint (e : Engine σ ω) (endpoint : Endpoint ω) (descs : List Descriptor)
    (s : EngineState σ ω) : ({ e with endpoint } : Engine σ ω).judgeAll descs s = e.judgeAll descs s := by
  induction descs generalizing s with
  | nil => rfl
  | cons d rest ih =>
    have judge : ({ e with endpoint } : Engine σ ω).judge d s = e.judge d s := rfl
    simp only [judgeAll, judge, ih]

theorem work_withEndpoint (e : Engine σ ω) (endpoint : Endpoint ω) (s : EngineState σ ω) :
    ({ e with endpoint } : Engine σ ω).work s = e.work s := by
  have drain : ({ e with endpoint } : Engine σ ω).drain s = e.drain s := rfl
  simp only [work, process, drain, judgeAll_withEndpoint]

/-! ### The call -/

/-- A batch fails only because the other side is not told of what is outstanding, and stops there. -/
theorem processBatch_eq_error {error : SocketError} (failed : e.processBatch s = (.error error, t)) :
    (∃ call, error = .system call ∧ (e.endpoint.kickTx (e.work s).2.env).1 = .error call) ∧
      (e.work s).2.outstandingTx ≠ 0 ∧ e.kicks (e.work s).2 = true ∧
      t = { (e.work s).2 with env := (e.endpoint.kickTx (e.work s).2.env).2 } := by
  rw [processBatch_eq, reclaim] at failed
  split at failed
  next called =>
    cases failed
  next result u called =>
    cases failed
    split at called
    next => cases called
    next some =>
      split at called
      next kicks =>
        split at called
        next call env told =>
          cases called
          rw [told]
          exact ⟨⟨call, rfl, rfl⟩, some, kicks, rfl⟩
        next => cases called
      next => cases called

/-- Over an endpoint that has the other side told of what is outstanding, a batch goes on and collects. -/
theorem processBatch_of_told {p : Endpoint ω} (alike : p.needWakeup = e.endpoint.needWakeup)
    (some : (e.work s).2.outstandingTx ≠ 0) (kicks : e.kicks (e.work s).2 = true)
    (told : (p.kickTx (e.work s).2.env).1 = .ok ()) :
    ({ e with endpoint := p } : Engine σ ω).processBatch s =
      (.ok (e.work s).1.length, collect { (e.work s).2 with env := (p.kickTx (e.work s).2.env).2 }) := by
  obtain ⟨env, called⟩ : ∃ env, p.kickTx (e.work s).2.env = (.ok (), env) := ⟨_, Prod.ext told rfl⟩
  have kicks' : ({ e with endpoint := p } : Engine σ ω).kicks (e.work s).2 = true := by
    rw [← kicks, Engine.kicks, Engine.kicks, alike]
  have reclaimed : ({ e with endpoint := p } : Engine σ ω).reclaim (e.work s).2 =
      (.ok (), collect { (e.work s).2 with env }) := by
    simp only [reclaim, if_neg some, if_pos kicks', called]
  rw [processBatch_eq, work_withEndpoint, reclaimed, called]

/-! ### The next batch -/

/-- A batch that failed and left nothing to receive is made up for by the next one: with the other side told, it leads to
where the failed one would have led if the other side had been told then. -/
theorem processBatch_again {p q : Endpoint ω} (inert : e.endpoint.Inert held link) (inert₁ : p.Inert held link)
    (inert₂ : q.Inert held link) (alike₁ : p.needWakeup = e.endpoint.needWakeup)
    (alike₂ : q.needWakeup = e.endpoint.needWakeup) {error : SocketError} (failed : e.processBatch s = (.error error, t))
    (tracks : t.rx.Tracks t.env.rings.rx) (emptied : t.env.rings.rx.pending = [])
    (told₁ : (p.kickTx (e.work s).2.env).1 = .ok ()) (told₂ : (q.kickTx t.env).1 = .ok ()) :
    ∃ u v, ({ e with endpoint := p } : Engine σ ω).processBatch s = (.ok (e.work s).1.length, u) ∧
      ({ e with endpoint := q } : Engine σ ω).processBatch t = (.ok 0, v) ∧ u.Untouched held link v := by
  obtain ⟨-, some, kicks, stopped⟩ := processBatch_eq_error failed
  have between : (e.work s).2.Untouched held link t := stopped ▸ inert.untouched (e.work s).2
  have nothing : e.work t = ([], t) := e.work_eq_of_nil tracks emptied
  have before := inert₁.untouched (e.work s).2
  have after := inert₂.untouched t
  have first := processBatch_of_told alike₁ some kicks told₁
  have second : ({ e with endpoint := q } : Engine σ ω).processBatch t =
      (.ok 0, collect { t with env := (q.kickTx t.env).2 }) := by
    -- Nothing is received, and what is outstanding and whether the other side is to be told is as it was.
    obtain ⟨world, rfl, -, -⟩ := between
    have again := processBatch_of_told (s := { (e.work s).2 with env := { (e.work s).2.env with world } }) alike₂
      (by rw [nothing]; exact some) (by rw [nothing]; exact kicks) (by rw [nothing]; exact told₂)
    rw [nothing] at again
    exact again
  exact ⟨_, _, first, second, ((before.symm.trans between).trans after).collect⟩

/-- That the other side cannot be told of the transmit ring costs nothing but time. Take any state that an engine gets to
over an endpoint that, whether or not the call succeeds, does nothing to the rings and the frames, and a batch from there
that fails.

It fails because the call does, and by then it has dealt with what it received: the slots are released, the replies for
which there is room are queued and counted as outstanding, the other frames are given back, and all of that is in the
counters; nothing is collected. When nothing had been received it has changed nothing at all.

When it has left nothing to receive, the next batch over an endpoint that works makes up for it: it leads to the state to
which the failed batch would have led over an endpoint that works, down to the order of the free stack. Nothing tells the
two apart but what is written down of calls.

The simulated kernel side, with faults at any calls, is such an endpoint. -/
theorem failed_kick_costs_time :
    (∀ {σ ω κ : Type} {e : Engine σ ω} {l : Layout} {held : ω → Custody} {link : ω → κ} {s t : EngineState σ ω}
      {error : SocketError}, e.processor.Keeps (Env.port held) → e.endpoint.Inert held link →
        e.Reachable l held s → e.processBatch s = (.error error, t) →
        (∃ call, error = .system call ∧ (e.endpoint.kickTx (e.work s).2.env).1 = .error call) ∧
          (∃ frames rest sent returned, e.Deals l s t frames rest sent returned) ∧
          (s.env.rings.rx.pending = [] → s.Untouched held link t) ∧
          (t.env.rings.rx.pending = [] → ∀ p q : Endpoint ω, p.Inert held link → q.Inert held link →
            p.needWakeup = e.endpoint.needWakeup → q.needWakeup = e.endpoint.needWakeup →
            (p.kickTx (e.work s).2.env).1 = .ok () → (q.kickTx t.env).1 = .ok () →
              ∃ u v, ({ e with endpoint := p } : Engine σ ω).processBatch s = (.ok (e.work s).1.length, u) ∧
                ({ e with endpoint := q } : Engine σ ω).processBatch t = (.ok 0, v) ∧ u.Untouched held link v)) ∧
      ∀ {κ : Type} (needWakeup : Bool) (fault : Env (Simulator × κ) → Option SystemError),
        let p := ((Simulator.endpoint needWakeup).focus Prod.fst fun simulator w => (simulator, w.2)).faulty fault
        p.Inert (Simulator.custody ·.1) Prod.snd ∧ ∀ env, fault env = none → (p.kickTx env).1 = .ok () := by
  constructor
  · intro σ ω κ e l held link s t error keeps inert reachable failed
    have confined := confined_of_inert (l := l) keeps inert
    have orderly := reachable.orderly confined
    have after := processBatch_orderly confined orderly
    rw [failed] at after
    obtain ⟨cause, -, -, stopped⟩ := processBatch_eq_error failed
    have untouched : (e.work s).2.Untouched held link t := stopped ▸ inert.untouched (e.work s).2
    obtain ⟨frames, rest, sent, returned, deals⟩ := work_deals confined orderly
    refine ⟨cause, ⟨frames, rest, sent, returned, deals.untouched untouched⟩, fun empty => ?_, fun emptied p q => ?_⟩
    · rwa [e.work_eq_of_nil orderly.rx empty] at untouched
    · intro inert₁ inert₂ alike₁ alike₂ told₁ told₂
      exact processBatch_again inert inert₁ inert₂ alike₁ alike₂ failed after.rx emptied told₁ told₂
  · intro κ needWakeup fault
    have quiet : ((Simulator.endpoint needWakeup).focus Prod.fst
        fun simulator (w : Simulator × κ) => (simulator, w.2)).Quiet (Simulator.custody ·.1) Prod.snd :=
      fun env => ⟨_, rfl, rfl, rfl⟩
    refine ⟨quiet.inert.faulty fault, fun env none => ?_⟩
    simp only [Endpoint.faulty, none]
    rfl

theorem exists_eq_error {result : Except SocketError Nat × EngineState σ ω} (fails : result.1.isOk = false) :
    ∃ error t, result = (.error error, t) := by
  obtain ⟨answer, t⟩ := result
  cases answer with
  | ok received => cases fails
  | error error => exact ⟨error, t, rfl⟩

/-- One reply is on the completion ring and two packets have been received, one to be sent back and one not, when the
other side cannot be told. The next batch ends where this one would have. -/
theorem failed_kick_costs_time_for_two_packets :
    let l : Layout := ⟨2048, 4, by decide, by decide⟩
    let sevens : Processor Unit Simulator :=
      .responder "sevens" fun packet => if packet = [7] then .ok packet else .error (.runt packet.length)
    let down : Endpoint Simulator := (Simulator.endpoint false).faulty fun _ => some (.custom "down")
    let e : Engine Unit Simulator := ⟨sevens, down, 64, .wait, .ofMilliseconds 1000⟩
    let up : Engine Unit Simulator := { e with endpoint := Simulator.endpoint false }
    let s₀ := e.start l () { Env.blank Simulator.idle with
      rings := ⟨.blank 4 0xffffffff, .blank 4 0, .blank 4 0xffffffff, .blank 4 7⟩, umem := .zeroed l }
    let s := [Move.deliver [7], .batch, .transmit, .complete 1, .deliver [7], .deliver [1]].foldl (e.act l) s₀
    s.env.rings.completion.pending.length = 1 ∧
      ∃ error t u v, e.processBatch s = (.error error, t) ∧ t.env.rings.tx.pending.length = 1 ∧ t.outstandingTx = 2 ∧
        t.env.stats.dropped = 1 ∧ t.env.rings.completion = s.env.rings.completion ∧
        up.processBatch s = (.ok 2, u) ∧ up.processBatch t = (.ok 0, v) ∧ u.outstandingTx = 1 ∧
        v.outstandingTx = u.outstandingTx ∧ v.pool = u.pool ∧ v.env.rings = u.env.rings ∧ v.env.umem = u.env.umem ∧
        v.env.stats = u.env.stats := by
  intro l sevens down e up s₀ s
  have quiet : (Simulator.endpoint false).Quiet Simulator.custody fun _ => () := fun env => ⟨_, rfl, rfl, rfl⟩
  have inert : e.endpoint.Inert Simulator.custody fun _ => () :=
    quiet.inert.faulty fun _ => some (.custom "down")
  have keeps : e.processor.Keeps (Env.port Simulator.custody) := Processor.keeps_responder _ _ fun _ _ => rfl
  have confined : e.Confined l Simulator.custody := confined_of_inert keeps inert
  have start : e.Reachable l Simulator.custody s₀ :=
    .start () ⟨⟨4, 0xffffffff, rfl⟩, ⟨4, 0, rfl⟩, ⟨4, 0xffffffff, rfl⟩, ⟨4, 7, rfl⟩⟩ rfl
  have reachable : e.Reachable l Simulator.custody s :=
    (((((start.act confined (.deliver [7])).act confined .batch).act confined .transmit).act confined (.complete 1)).act
      confined (.deliver [7])).act confined (.deliver [1])
  have before : s.env.rings.completion.pending.length = 1 ∧ (e.work s).1.length = 2 ∧
      (up.processBatch s).2.outstandingTx = 1 := by decide +kernel
  have after : (e.processBatch s).1.isOk = false ∧ (e.processBatch s).2.env.rings.rx.pending = [] ∧
      (e.processBatch s).2.env.rings.tx.pending.length = 1 ∧ (e.processBatch s).2.outstandingTx = 2 ∧
      (e.processBatch s).2.env.stats.dropped = 1 := by decide +kernel
  obtain ⟨back, received, outstanding⟩ := before
  obtain ⟨fails, emptied, queued, counted, dropped⟩ := after
  have works (env : Env Simulator) : ((Simulator.endpoint false).kickTx env).1 = .ok () := rfl
  obtain ⟨error, t, failed⟩ := exists_eq_error fails
  rw [failed] at emptied queued counted dropped
  obtain ⟨-, ⟨frames, rest, sent, returned, deals⟩, -, again⟩ :=
    failed_kick_costs_time.1 keeps inert reachable failed
  obtain ⟨u, v, first, second, world, rfl, -, -⟩ :=
    again emptied (Simulator.endpoint false) (Simulator.endpoint false) quiet.inert quiet.inert rfl rfl (works _) (works _)
  rw [received] at first
  change up.processBatch s = _ at first
  rw [first] at outstanding
  exact ⟨back, error, t, u, _, failed, queued, counted, dropped, deals.completion, first, second, outstanding,
    rfl, rfl, rfl, rfl, rfl⟩

end Engine

end XdpEcho
