import XdpEcho.Engine.Run
import XdpEcho.Proofs.Engine.Progress

/-!
# Batches that are not left alone

The other side does not wait until a batch is over. It may move its cursors, set and clear flags and write anywhere in the
shared memory while the engine is between two looks at it. Here it comes in between at every moment where that can make a
difference to the engine: what happens while packets are processed can be told by the processor, and what happens once a
flag has been looked at by the call that follows.

* `Interference` — what is done to the surroundings meanwhile, and when.
* `Engine.workAmid`, `Engine.processBatchAmid`, `Engine.turnAmid`, `Engine.runAmid` — batches, turns and runs amid of it,
  which are those of an engine that is left alone when nothing is done.
* `Engine.Visited` — the states that an engine gets to amid of what the other side may do to the rings.
* `Engine.Visited.orderly`, `Engine.workAmid_sends` — the invariant holds there, and replies are counted when they are
  queued.
-/

namespace XdpEcho

variable {σ ω : Type} {l : Layout}

/-- When the other side comes in between. -/
inductive Moment where
  /-- What has been received has been copied. -/
  | drained
  /-- Frames have been offered. -/
  | supplied
  /-- The packets have been processed, and replies are on the transmit ring. -/
  | queued
  /-- The batch is over. -/
  | ended

/-- What is done to the surroundings at some moment. It may go by whatever is around and remember there what it has done,
so it need not do the same every time. -/
abbrev Interference (ω : Type) := Moment → Env ω → Env ω

namespace Interference

/-- Nothing is done. -/
def none : Interference ω := fun _ env => env

/-- The rings change only by what the other side may do to them. -/
def Lawful (amid : Interference ω) (l : Layout) (held : ω → Custody) : Prop :=
  ∀ (moment : Moment) (env : Env ω), KernelRun l (env.port held) ((amid moment env).port held)

end Interference

namespace Engine

/-! ### Batches, turns and runs -/

/-- What a batch does before it reclaims. Returns what was received. -/
def workAmid (e : Engine σ ω) (amid : Interference ω) (s : EngineState σ ω) : List Descriptor × EngineState σ ω :=
  let (descs, s) := e.drain s
  let s := s.mapEnv (amid .drained)
  (descs, if descs.isEmpty then s else e.process descs (s.replenish.mapEnv (amid .supplied)))

/-- What a batch has left when it reclaims. -/
def queuedAmid (e : Engine σ ω) (amid : Interference ω) (s : EngineState σ ω) : EngineState σ ω :=
  (e.workAmid amid s).2.mapEnv (amid .queued)

def processBatchAmid (e : Engine σ ω) (amid : Interference ω) (s : EngineState σ ω) :
    Except SocketError Nat × EngineState σ ω :=
  match e.reclaim (e.queuedAmid amid s) with
  | (.ok (), t) => (.ok (e.workAmid amid s).1.length, t)
  | (.error error, t) => (.error error, t)

def waitingTurnAmid (e : Engine σ ω) (amid : Interference ω) (s : EngineState σ ω) :
    Except SocketError Unit × EngineState σ ω :=
  match e.endpoint.waitReadable e.pollTimeout s.env with
  | (.error error, env) => (.error (.system error), { s with env })
  | (.ok _, env) =>
    match e.processBatchAmid amid { s with env } with
    | (.error error, s) => (.error error, s)
    | (.ok _, s) => (.ok (), s.mapEnv (amid .ended))

def busyTurnAmid (e : Engine σ ω) (amid : Interference ω) (s : EngineState σ ω) :
    Except SocketError Unit × EngineState σ ω :=
  match e.processBatchAmid amid s with
  | (.error error, s) => (.error error, s)
  | (.ok received, s) =>
    let s := s.mapEnv (amid .ended)
    if received = 0 ∧ e.endpoint.needWakeup ∧ s.env.rings.fill.needsWakeup then
      match e.endpoint.wakeupRx s.env with
      | (.error error, env) => (.error (.system error), { s with env })
      | (.ok (), env) => (.ok (), { s with env })
    else (.ok (), s)

def turnAmid (e : Engine σ ω) (amid : Interference ω) (s : EngineState σ ω) :
    Except SocketError Unit × EngineState σ ω :=
  match e.poller with
  | .wait => e.waitingTurnAmid amid s
  | .busy => e.busyTurnAmid amid s

def runAmid (e : Engine σ ω) (amid : Interference ω) :
    Nat → EngineState σ ω → Option (Except SocketError Unit) × EngineState σ ω
  | 0, s => (Option.none, s)
  | looks + 1, s =>
    if s.env.stop then (some (.ok ()), s.mapEnv (·.emit (.engineStopped s.outstandingTx)))
    else
      match e.turnAmid amid s with
      | (.error error, s) => (some (.error error), s)
      | (.ok (), s) => e.runAmid amid looks s

/-- The states in which a run begins its turns. -/
def turnStarts (e : Engine σ ω) (amid : Interference ω) : Nat → EngineState σ ω → List (EngineState σ ω)
  | 0, _ => []
  | looks + 1, s =>
    if s.env.stop then []
    else
      s :: match e.turnAmid amid s with
        | (.error _, _) => []
        | (.ok (), s) => e.turnStarts amid looks s

theorem processBatchAmid_none (e : Engine σ ω) (s : EngineState σ ω) : e.processBatchAmid .none s = e.processBatch s :=
  rfl

theorem turnAmid_none (e : Engine σ ω) (s : EngineState σ ω) : e.turnAmid .none s = e.turn s := by
  rw [turnAmid, turn]
  cases e.poller with
  | wait =>
    simp only [waitingTurnAmid, processBatchAmid_none]
    rfl
  | busy =>
    simp only [busyTurnAmid, processBatchAmid_none]
    rfl

theorem runAmid_none (e : Engine σ ω) (looks : Nat) (s : EngineState σ ω) : e.runAmid .none looks s = e.run looks s := by
  induction looks generalizing s with
  | zero => rfl
  | succ looks ih =>
    simp only [runAmid, turnAmid_none, ih]
    rfl

/-! ### Lawful interference -/

variable {e : Engine σ ω} {held : ω → Custody} {s : EngineState σ ω} {amid : Interference ω} {c : Custody}

/-- Batches are begun from a fresh start, and the other side does what it may do to the rings, between batches and amid of
them. -/
inductive Visited (e : Engine σ ω) (l : Layout) (held : ω → Custody) : EngineState σ ω → Prop
  | start {env : Env ω} (processorState : σ) (created : env.rings.Created) (nothing : held env.world = .empty) :
      Visited e l held (e.start l processorState env)
  | batch {s : EngineState σ ω} {amid : Interference ω} (before : Visited e l held s) (lawful : amid.Lawful l held) :
      Visited e l held (e.processBatchAmid amid s).2
  | kernel {s : EngineState σ ω} {env : Env ω} (before : Visited e l held s)
      (run : KernelRun l (s.env.port held) (env.port held)) : Visited e l held { s with env }

/-- What the other side does meanwhile keeps the invariant, leaves what has been received where it is, and moves no cursor
of the engine. -/
theorem orderly_meanwhile (lawful : amid.Lawful l held) (moment : Moment) (orderly : Orderly l (held s.env.world) s) :
    Orderly l (held (s.mapEnv (amid moment)).env.world) (s.mapEnv (amid moment)) ∧
      s.env.rings.rx.pending <+: (s.mapEnv (amid moment)).env.rings.rx.pending ∧
      (s.mapEnv (amid moment)).env.rings.tx.producer = s.env.rings.tx.producer ∧
      (s.mapEnv (amid moment)).env.rings.completion.consumer = s.env.rings.completion.consumer :=
  ⟨orderly_of_call orderly (lawful moment s.env), Orderly.kernelRun_rx (s := s) orderly (lawful moment s.env),
    (lawful moment s.env).cursors⟩

/-- What a batch comes to before it processes packets: the invariant has been kept, and nothing has been sent or
collected. -/
structure Precedes (l : Layout) (held : ω → Custody) (s t : EngineState σ ω) : Prop where
  orderly : Orderly l (held t.env.world) t
  outstandingTx : t.outstandingTx = s.outstandingTx
  tx : t.env.rings.tx.producer = s.env.rings.tx.producer
  completion : t.env.rings.completion.consumer = s.env.rings.completion.consumer

/-- A batch that is not left alone comes to a state in which its packets, if it has any, are processed as in any other
batch. They are still on the ring there. -/
theorem workAmid_eq (lawful : amid.Lawful l held) (orderly : Orderly l (held s.env.world) s) :
    ∃ descs t, e.workAmid amid s = (descs, if descs.isEmpty then t else e.process descs t) ∧ Precedes l held s t ∧
      descs <+: t.env.rings.rx.pending ∧ descs.length ≤ (t.rx.limit - t.rx.next).toNat := by
  obtain ⟨descs, rx, drained, tracks, oldest, known, -, -⟩ := e.drain_eq orderly.rx
  have orderly₁ : Orderly l (held s.env.world) { s with rx } := { orderly with rx := tracks }
  obtain ⟨orderly₂, later₂, tx₂, completion₂⟩ := orderly_meanwhile (s := { s with rx }) lawful .drained orderly₁
  obtain ⟨orderly₃, later₃, tx₃, completion₃⟩ :=
    orderly_meanwhile (s := (EngineState.mapEnv (amid .drained) { s with rx }).replenish) lawful .supplied
      orderly₂.replenish
  simp only [workAmid, drained]
  by_cases none : descs.isEmpty
  · exact ⟨descs, _, by rw [if_pos none, if_pos none], ⟨orderly₂, rfl, tx₂, completion₂⟩, oldest.trans later₂, known⟩
  · refine ⟨descs, _, by rw [if_neg none, if_neg none], ⟨orderly₃, rfl, tx₃.trans tx₂, completion₃.trans completion₂⟩, ?_,
      known⟩
    exact (oldest.trans later₂).trans later₃

/-- The work on a batch adds to the count what it puts on the transmit ring. -/
theorem workAmid_sends (confined : e.Confined l held) (lawful : amid.Lawful l held)
    (orderly : Orderly l (held s.env.world) s) :
    Orderly l (held (e.workAmid amid s).2.env.world) (e.workAmid amid s).2 ∧
      ∃ t sent, Precedes l held s t ∧ Sends t (e.workAmid amid s).2 sent := by
  obtain ⟨descs, t, worked, before, oldest, known⟩ := workAmid_eq (e := e) lawful orderly
  rw [worked]
  dsimp only
  split
  next =>
    exact ⟨before.orderly, t, [], before, by rw [Ring.push_nil], by rw [List.append_nil], rfl, (UInt32.add_zero _).symm⟩
  next =>
    obtain ⟨-, sent, sends⟩ := process_sends confined before.orderly known
    exact ⟨process_orderly confined before.orderly oldest known, t, sent, before, sends⟩

theorem processBatchAmid_orderly (confined : e.Confined l held) (lawful : amid.Lawful l held)
    (orderly : Orderly l (held s.env.world) s) :
    Orderly l (held (e.processBatchAmid amid s).2.env.world) (e.processBatchAmid amid s).2 := by
  have worked := (workAmid_sends confined lawful orderly).1
  have queued := (orderly_meanwhile lawful .queued worked).1
  have reclaimed := reclaim_orderly confined queued
  rw [processBatchAmid]
  split
  next called =>
    rw [queuedAmid] at called
    rwa [called] at reclaimed
  next called =>
    rw [queuedAmid] at called
    rwa [called] at reclaimed

theorem Visited.orderly (confined : e.Confined l held) (visited : e.Visited l held s) :
    Orderly l (held s.env.world) s := by
  induction visited with
  | start processorState created nothing =>
    rw [world_start, nothing]
    exact e.start_orderly l processorState created
  | batch _ lawful ih => exact processBatchAmid_orderly confined lawful ih
  | kernel _ run ih => exact orderly_of_call ih run

end Engine

end XdpEcho
