import XdpEcho.Engine.Run
import XdpEcho.Proofs.Engine.Progress

/-!
# The turns of a running engine

A running engine does nothing but whole batches, and between them it only asks the other side to wait or to look at the
fill ring. This holds whoever raises the stop flag and whenever: the flag is looked at between turns only.

* `Engine.Turn`, `Engine.Turns` — one turn with each poller, and turns that follow one another.
* `Engine.run_eq_ok_iff` — a run that ends without an error is such turns, as many as it found the flag down.
* `Engine.Attended`, `Engine.Turns.orderly` — what the turns do to the receive ring when the other side keeps to its
  part.
-/

namespace XdpEcho

variable {σ ω : Type} {l : Layout} {e : Engine σ ω} {s t u : EngineState σ ω}

/-- No call to the other side fails. -/
structure Endpoint.Unfailing (p : Endpoint ω) : Prop where
  waitReadable : ∀ (timeout : Duration) (env : Env ω) (error : SystemError), (p.waitReadable timeout env).1 ≠ .error error
  kickTx : ∀ (env : Env ω) (error : SystemError), (p.kickTx env).1 ≠ .error error
  wakeupRx : ∀ (env : Env ω) (error : SystemError), (p.wakeupRx env).1 ≠ .error error

namespace Engine

/-! ### Turns -/

/-- One turn, in which a whole batch has received so many packets. A waiting engine waits once before the batch. A busy
engine does nothing before the batch, and after it has the other side look at the fill ring only when nothing was received
and the other side has asked for that. -/
inductive Turn (e : Engine σ ω) : Nat → EngineState σ ω → EngineState σ ω → Prop
  | waited {s t : EngineState σ ω} {env : Env ω} {ready : Bool} {received : Nat} (waits : e.poller = .wait)
      (call : e.endpoint.waitReadable e.pollTimeout s.env = (.ok ready, env))
      (batch : e.processBatch { s with env } = (.ok received, t)) : Turn e received s t
  | spun {s t : EngineState σ ω} {received : Nat} (spins : e.poller = .busy)
      (batch : e.processBatch s = (.ok received, t))
      (quiet : ¬ (received = 0 ∧ e.endpoint.needWakeup ∧ t.env.rings.fill.needsWakeup)) : Turn e received s t
  | woke {s t : EngineState σ ω} {env : Env ω} (spins : e.poller = .busy) (batch : e.processBatch s = (.ok 0, t))
      (asked : e.endpoint.needWakeup ∧ t.env.rings.fill.needsWakeup)
      (call : e.endpoint.wakeupRx t.env = (.ok (), env)) : Turn e 0 s { t with env }

/-- Turns that follow one another, each begun while the stop flag is down, with what each of them has received. -/
inductive Turns (e : Engine σ ω) : List Nat → EngineState σ ω → EngineState σ ω → Prop
  | none (s : EngineState σ ω) : Turns e [] s s
  | more {s t u : EngineState σ ω} {received : Nat} {later : List Nat} (down : s.env.stop = false)
      (turn : e.Turn received s t) (rest : Turns e later t u) : Turns e (received :: later) s u

theorem turn_eq_ok_iff : e.turn s = (.ok (), t) ↔ ∃ received, e.Turn received s t := by
  constructor
  · intro turned
    rw [turn] at turned
    split at turned
    next waits =>
      rw [waitingTurn] at turned
      split at turned
      next => cases turned
      next call =>
        split at turned
        next => cases turned
        next received _ batch =>
          cases turned
          exact ⟨received, .waited waits call batch⟩
    next spins =>
      rw [busyTurn] at turned
      split at turned
      next => cases turned
      next received v batch =>
        split at turned
        next asked =>
          obtain ⟨rfl, asked⟩ := asked
          split at turned
          next => cases turned
          next call =>
            cases turned
            exact ⟨0, .woke spins batch asked call⟩
        next quiet =>
          cases turned
          exact ⟨received, .spun spins batch quiet⟩
  · rintro ⟨received, turned⟩
    rw [turn]
    cases turned with
    | waited waits call batch => simp only [waits, waitingTurn, call, batch]
    | spun spins batch quiet => simp only [spins, busyTurn, batch, if_neg quiet]
    | woke spins batch asked call => simp only [spins, busyTurn, batch, true_and, if_pos asked, call]

/-! ### Runs -/

/-- The state in which a run ends: nothing has changed but that the end is reported. -/
def stopped (s : EngineState σ ω) : EngineState σ ω :=
  s.mapEnv (·.emit (.engineStopped s.outstandingTx))

theorem run_of_up (up : s.env.stop = true) (looks : Nat) : e.run (looks + 1) s = (some (.ok ()), stopped s) := by
  rw [run, if_pos up, stopped]

theorem run_of_turn (down : s.env.stop = false) {received : Nat} (turned : e.Turn received s t) (looks : Nat) :
    e.run (looks + 1) s = e.run looks t := by
  rw [run, if_neg (by rw [down]; decide), turn_eq_ok_iff.mpr ⟨received, turned⟩]

/-- A run ends without an error exactly when the flag is found up after some turns, and one more look at the flag is
allowed than there are turns. -/
theorem run_eq_ok_iff {looks : Nat} :
    e.run looks s = (some (.ok ()), t) ↔
      ∃ received u, received.length < looks ∧ e.Turns received s u ∧ u.env.stop = true ∧ t = stopped u := by
  constructor
  · intro ran
    induction looks generalizing s with
    | zero => cases ran
    | succ looks ih =>
      cases flag : s.env.stop with
      | true =>
        rw [run_of_up flag] at ran
        cases ran
        exact ⟨[], s, Nat.succ_pos _, .none s, flag, rfl⟩
      | false =>
        rw [run, if_neg (by rw [flag]; decide)] at ran
        split at ran
        next => cases ran
        next v turned =>
          obtain ⟨received, turned⟩ := turn_eq_ok_iff.mp turned
          obtain ⟨later, u, fewer, turns, up, rfl⟩ := ih ran
          exact ⟨received :: later, u, Nat.succ_lt_succ fewer, .more flag turned turns, up, rfl⟩
  · rintro ⟨received, u, fewer, turns, up, rfl⟩
    induction turns generalizing looks with
    | none s =>
      obtain ⟨looks, rfl⟩ := Nat.exists_eq_succ_of_ne_zero (Nat.ne_of_gt fewer)
      exact run_of_up up looks
    | more down turned _ ih =>
      obtain ⟨looks, rfl⟩ := Nat.exists_eq_succ_of_ne_zero (Nat.ne_of_gt (Nat.zero_lt_of_lt fewer))
      rw [run_of_turn down turned]
      exact ih (Nat.lt_of_succ_lt_succ fewer) up

/-! ### Runs that do not fail -/

theorem reclaim_of_unfailing (unfailing : e.endpoint.Unfailing) (s : EngineState σ ω) :
    ∃ t, e.reclaim s = (.ok (), t) := by
  rw [reclaim]
  split
  next => exact ⟨_, rfl⟩
  next =>
    split
    next =>
      split
      next error _ called => exact absurd (congrArg Prod.fst called) (unfailing.kickTx s.env error)
      next => exact ⟨_, rfl⟩
    next => exact ⟨_, rfl⟩

theorem processBatch_of_unfailing (unfailing : e.endpoint.Unfailing) (s : EngineState σ ω) :
    ∃ t, e.processBatch s = (.ok (e.work s).1.length, t) := by
  obtain ⟨t, reclaimed⟩ := reclaim_of_unfailing unfailing (e.work s).2
  exact ⟨t, processBatch_eq_ok_iff.mpr ⟨reclaimed, rfl⟩⟩

theorem turn_of_unfailing (unfailing : e.endpoint.Unfailing) (s : EngineState σ ω) : ∃ t, e.turn s = (.ok (), t) := by
  rw [turn]
  split
  next =>
    rw [waitingTurn]
    split
    next error _ called => exact absurd (congrArg Prod.fst called) (unfailing.waitReadable e.pollTimeout s.env error)
    next env _ =>
      obtain ⟨t, batch⟩ := processBatch_of_unfailing unfailing { s with env }
      rw [batch]
      exact ⟨t, rfl⟩
  next =>
    obtain ⟨t, batch⟩ := processBatch_of_unfailing unfailing s
    rw [busyTurn, batch]
    dsimp only
    split
    next =>
      split
      next error _ called => exact absurd (congrArg Prod.fst called) (unfailing.wakeupRx t.env error)
      next => exact ⟨_, rfl⟩
    next => exact ⟨_, rfl⟩

/-- A run fails only where a call does. -/
theorem run_of_unfailing (unfailing : e.endpoint.Unfailing) (looks : Nat) (s : EngineState σ ω) (error : SocketError) :
    (e.run looks s).1 ≠ some (.error error) := by
  induction looks generalizing s with
  | zero => nofun
  | succ looks ih =>
    obtain ⟨t, turned⟩ := turn_of_unfailing unfailing s
    rw [run]
    split
    next => nofun
    next =>
      rw [turned]
      exact ih t

/-! ### What turns do to the receive ring -/

/-- Whatever the other side is asked for, it then does to the rings what it may do at any time. -/
structure Attended (e : Engine σ ω) (l : Layout) (held : ω → Custody) : Prop extends e.Confined l held where
  waitReadable : ∀ (timeout : Duration) (env : Env ω),
    KernelRun l (env.port held) ((e.endpoint.waitReadable timeout env).2.port held)
  wakeupRx : ∀ env : Env ω, KernelRun l (env.port held) ((e.endpoint.wakeupRx env).2.port held)

variable {held : ω → Custody}

theorem Turn.orderly (attended : e.Attended l held) (orderly : Orderly l (held s.env.world) s) {received : Nat}
    (turned : e.Turn received s t) :
    Orderly l (held t.env.world) t ∧ t.env.rings.rx.consumer = s.env.rings.rx.consumer + .ofNat received := by
  have batches {s t : EngineState σ ω} {received : Nat} (orderly : Orderly l (held s.env.world) s)
      (batch : e.processBatch s = (.ok received, t)) :
      Orderly l (held t.env.world) t ∧ t.env.rings.rx.consumer = s.env.rings.rx.consumer + .ofNat received := by
    have after := processBatch_orderly attended.toConfined orderly
    rw [batch] at after
    exact ⟨after, (processBatch_received attended.toConfined orderly batch).2.1⟩
  cases turned with
  | waited waits call batch =>
    have run := attended.waitReadable e.pollTimeout s.env
    rw [call] at run
    obtain ⟨after, released⟩ := batches (orderly_of_call orderly run) batch
    exact ⟨after, released.trans (congrArg (· + _) run.consumer_rx)⟩
  | spun spins batch quiet => exact batches orderly batch
  | @woke _ v _ spins batch asked call =>
    obtain ⟨after, released⟩ := batches orderly batch
    have run := attended.wakeupRx v.env
    rw [call] at run
    exact ⟨orderly_of_call after run, run.consumer_rx.trans released⟩

/-- As many slots of the receive ring are released as packets were received. -/
theorem Turns.orderly (attended : e.Attended l held) (orderly : Orderly l (held s.env.world) s) {received : List Nat}
    (turns : e.Turns received s u) :
    Orderly l (held u.env.world) u ∧ u.env.rings.rx.consumer = s.env.rings.rx.consumer + .ofNat received.sum := by
  induction turns with
  | none s => exact ⟨orderly, (UInt32.add_zero _).symm⟩
  | more down turned rest ih =>
    obtain ⟨after, released⟩ := turned.orderly attended orderly
    obtain ⟨final, more⟩ := ih after
    refine ⟨final, ?_⟩
    rw [more, released, List.sum_cons, UInt32.ofNat_add, UInt32.add_assoc]

end Engine

end XdpEcho
