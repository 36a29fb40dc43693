import XdpEcho.Proofs.Engine.Attacked
import XdpEcho.Proofs.Engine.Interference

/-!
# When the other side is told of the rings

An engine tells the other side that there is something to send, or that there are frames to receive into. Here every call
that it makes to its socket is put on record, with what was around at the time, so that one can say which calls there are
and what had been done when they were made.

* `Endpoint.watched`, `Engine.watched`, `EngineState.watched` — the same engine with its calls on record.
* `Engine.batchCalls`, `Engine.wakeupCalls`, `Engine.turnCalls` — the calls that are due.
* `Engine.processBatchAmid_watched`, `Engine.runAmid_watched` — watching changes nothing, and the calls on record are
  those that are due.
* `Engine.workAmid_submits`, `Engine.snd_reclaim` — what comes before the call of a batch, and what comes after it.
* `Engine.batchCalls_of_sent` — nothing is sent without a call when the other side is always to be told.
* `Engine.told_once_and_in_time` — all of this, for every batch and every run.
-/

namespace XdpEcho

variable {α σ ω : Type} {l : Layout}

/-! ### Calls on record -/

/-- What an engine asks of its socket. -/
inductive SocketCall where
  | waitReadable (timeout : Duration)
  | kickTx
  | wakeupRx
  deriving DecidableEq

/-- A call, and what was around when it was made. -/
structure CallMade (ω : Type) where
  call : SocketCall
  env : Env ω

/-- The rest of the surroundings, and the calls that have been made, the first one first. -/
structure Watched (ω : Type) where
  world : ω
  calls : List (CallMade ω)

namespace Env

def watched (env : Env ω) (calls : List (CallMade ω)) : Env (Watched ω) :=
  env.withWorld ⟨env.world, calls⟩

def unwatched (env : Env (Watched ω)) : Env ω :=
  env.withWorld env.world.world

end Env

/-- Makes a call and puts it on record. -/
def SocketCall.record (call : SocketCall) (act : Env ω → α × Env ω) (env : Env (Watched ω)) : α × Env (Watched ω) :=
  let (result, after) := act env.unwatched
  (result, after.watched (env.world.calls ++ [⟨call, env.unwatched⟩]))

/-- The same endpoint with its calls on record. -/
def Endpoint.watched (p : Endpoint ω) : Endpoint (Watched ω) where
  needWakeup := p.needWakeup
  waitReadable timeout := (SocketCall.waitReadable timeout).record (p.waitReadable timeout)
  kickTx := SocketCall.kickTx.record p.kickTx
  wakeupRx := SocketCall.wakeupRx.record p.wakeupRx

/-- The same processor, which has nothing to do with the calls. -/
def Processor.watched (p : Processor σ ω) : Processor σ (Watched ω) where
  name := p.name
  process packet state env :=
    let (verdict, after, state, env') := p.process packet state env.unwatched
    (verdict, after, state, env'.watched env.world.calls)

def Interference.watched (amid : Interference ω) : Interference (Watched ω) :=
  fun moment env => (amid moment env.unwatched).watched env.world.calls

/-- The same engine with the calls to its socket on record. -/
def Engine.watched (e : Engine σ ω) : Engine σ (Watched ω) where
  processor := e.processor.watched
  endpoint := e.endpoint.watched
  batchSize := e.batchSize
  poller := e.poller
  pollTimeout := e.pollTimeout

/-- The same state, after the given calls. -/
def EngineState.watched (s : EngineState σ ω) (calls : List (CallMade ω)) : EngineState σ (Watched ω) where
  rx := s.rx
  tx := s.tx
  fill := s.fill
  completion := s.completion
  pool := s.pool
  outstandingTx := s.outstandingTx
  processorState := s.processorState
  env := s.env.watched calls

namespace Engine

variable {e : Engine σ ω} {amid : Interference ω} {s : EngineState σ ω}

/-! ### Which calls are due -/

theorem kicks_iff : e.kicks s = true ↔ e.endpoint.needWakeup = false ∨ s.env.rings.tx.needsWakeup = true := by
  rw [kicks, Bool.or_eq_true, Bool.not_eq_true']

/-- The calls that an engine makes when it reclaims: it tells the other side of the transmit ring, once, if frames are
outstanding and the other side is always to be told or has asked for it. -/
def kickCalls (e : Engine σ ω) (s : EngineState σ ω) : List (CallMade ω) :=
  if s.outstandingTx ≠ 0 ∧ (e.endpoint.needWakeup = false ∨ s.env.rings.tx.needsWakeup) then [⟨.kickTx, s.env⟩] else []

/-- The calls of one batch. -/
def batchCalls (e : Engine σ ω) (amid : Interference ω) (s : EngineState σ ω) : List (CallMade ω) :=
  e.kickCalls (e.queuedAmid amid s)

/-- The calls that a busy engine makes after a batch: it has the other side look at the fill ring, once, if the batch has
received nothing and the other side has asked for it. -/
def wakeupCalls (e : Engine σ ω) (amid : Interference ω) (s : EngineState σ ω) : List (CallMade ω) :=
  match e.processBatchAmid amid s with
  | (.ok received, t) =>
    let t := t.mapEnv (amid .ended)
    if received = 0 ∧ e.endpoint.needWakeup ∧ t.env.rings.fill.needsWakeup then [⟨.wakeupRx, t.env⟩] else []
  | (.error _, _) => []

/-- The calls of one turn. -/
def turnCalls (e : Engine σ ω) (amid : Interference ω) (s : EngineState σ ω) : List (CallMade ω) :=
  match e.poller with
  | .busy => e.batchCalls amid s ++ e.wakeupCalls amid s
  | .wait =>
    ⟨.waitReadable e.pollTimeout, s.env⟩ ::
      match e.endpoint.waitReadable e.pollTimeout s.env with
      | (.ok _, env) => e.batchCalls amid { s with env }
      | (.error _, _) => []

/-! ### Watching an engine -/

section Watching

variable (e : Engine σ ω) (amid : Interference ω) (s : EngineState σ ω) (calls : List (CallMade ω))

theorem drain_watched : e.watched.drain (s.watched calls) = ((e.drain s).1, (e.drain s).2.watched calls) :=
  rfl

theorem mapEnv_watched (moment : Moment) :
    (s.watched calls).mapEnv (amid.watched moment) = (s.mapEnv (amid moment)).watched calls :=
  rfl

theorem replenish_watched : (s.watched calls).replenish = s.replenish.watched calls :=
  rfl

theorem settle_watched (descs : List Descriptor) (verdicts : List Verdict) :
    settle descs verdicts (s.watched calls) = (settle descs verdicts s).watched calls :=
  rfl

theorem collect_watched : collect (s.watched calls) = (collect s).watched calls :=
  rfl

theorem judge_watched (d : Descriptor) :
    e.watched.judge d (s.watched calls) = ((e.judge d s).1, (e.judge d s).2.watched calls) := by
  have memory : (s.watched calls).env.umem = s.env.umem := rfl
  rw [judge, judge, memory]
  cases s.env.umem.read? d.addr d.len.toNat with
  | none => rfl
  | some packet => rfl

theorem judgeAll_watched (descs : List Descriptor) :
    e.watched.judgeAll descs (s.watched calls) = ((e.judgeAll descs s).1, (e.judgeAll descs s).2.watched calls) := by
  induction descs generalizing s with
  | nil => rfl
  | cons d rest ih => simp only [judgeAll, judge_watched, ih]

theorem process_watched (descs : List Descriptor) :
    e.watched.process descs (s.watched calls) = (e.process descs s).watched calls := by
  simp only [process, judgeAll_watched, settle_watched]

theorem workAmid_watched :
    e.watched.workAmid amid.watched (s.watched calls) = ((e.workAmid amid s).1, (e.workAmid amid s).2.watched calls) := by
  simp only [workAmid, drain_watched, mapEnv_watched, replenish_watched, process_watched]
  split <;> rfl

theorem queuedAmid_watched :
    e.watched.queuedAmid amid.watched (s.watched calls) = (e.queuedAmid amid s).watched calls := by
  rw [queuedAmid, workAmid_watched, mapEnv_watched]
  rfl

theorem reclaim_watched :
    e.watched.reclaim (s.watched calls) = ((e.reclaim s).1, (e.reclaim s).2.watched (calls ++ e.kickCalls s)) := by
  have same : e.watched.kicks (s.watched calls) = e.kicks s := rfl
  have made : e.watched.endpoint.kickTx (s.watched calls).env =
    ((e.endpoint.kickTx s.env).1, (e.endpoint.kickTx s.env).2.watched (calls ++ [⟨.kickTx, s.env⟩])) := rfl
  rw [reclaim, reclaim, kickCalls, same]
  by_cases none : s.outstandingTx = 0
  · have none' : (s.watched calls).outstandingTx = 0 := none
    rw [if_pos none', if_pos none, if_neg fun due => due.1 none, List.append_nil]
  · have some : (s.watched calls).outstandingTx ≠ 0 := none
    rw [if_neg some, if_neg none]
    by_cases due : e.kicks s = true
    · rw [if_pos due, if_pos due, if_pos ⟨none, kicks_iff.mp due⟩, made]
      obtain ⟨result, env⟩ := e.endpoint.kickTx s.env
      cases result <;> rfl
    · rw [if_neg due, if_neg due, if_neg fun both => due (kicks_iff.mpr both.2), List.append_nil, collect_watched]

theorem processBatchAmid_watched :
    e.watched.processBatchAmid amid.watched (s.watched calls) = ((e.processBatchAmid amid s).1,
      (e.processBatchAmid amid s).2.watched (calls ++ e.batchCalls amid s)) := by
  simp only [processBatchAmid, batchCalls, queuedAmid_watched, reclaim_watched, workAmid_watched]
  obtain ⟨result, t⟩ := e.reclaim (e.queuedAmid amid s)
  cases result <;> rfl

theorem waitingTurnAmid_watched (waits : e.poller = .wait) :
    e.watched.waitingTurnAmid amid.watched (s.watched calls) = ((e.waitingTurnAmid amid s).1,
      (e.waitingTurnAmid amid s).2.watched (calls ++ e.turnCalls amid s)) := by
  have made : e.watched.endpoint.waitReadable e.watched.pollTimeout (s.watched calls).env =
    ((e.endpoint.waitReadable e.pollTimeout s.env).1, (e.endpoint.waitReadable e.pollTimeout s.env).2.watched
      (calls ++ [⟨.waitReadable e.pollTimeout, s.env⟩])) := rfl
  rw [waitingTurnAmid, waitingTurnAmid, turnCalls, waits, made]
  obtain ⟨result, env⟩ := e.endpoint.waitReadable e.pollTimeout s.env
  cases result with
  | error error => rfl
  | ok ready =>
    have waited : { s.watched calls with env := env.watched (calls ++ [⟨.waitReadable e.pollTimeout, s.env⟩]) } =
      EngineState.watched { s with env } (calls ++ [⟨.waitReadable e.pollTimeout, s.env⟩]) := rfl
    dsimp only
    rw [waited, processBatchAmid_watched, List.append_assoc, List.singleton_append]
    obtain ⟨result, t⟩ := e.processBatchAmid amid { s with env }
    cases result <;> rfl

theorem busyTurnAmid_watched (spins : e.poller = .busy) :
    e.watched.busyTurnAmid amid.watched (s.watched calls) = ((e.busyTurnAmid amid s).1,
      (e.busyTurnAmid amid s).2.watched (calls ++ e.turnCalls amid s)) := by
  rw [busyTurnAmid, busyTurnAmid, turnCalls, spins, processBatchAmid_watched, wakeupCalls]
  obtain ⟨result, t⟩ := e.processBatchAmid amid s
  cases result with
  | error error =>
    dsimp only
    rw [List.append_nil]
  | ok received =>
    dsimp only
    rw [mapEnv_watched, ← List.append_assoc]
    generalize t.mapEnv (amid .ended) = u, calls ++ e.batchCalls amid s = before
    have same : e.watched.endpoint.needWakeup = e.endpoint.needWakeup := rfl
    have rings : (u.watched before).env.rings = u.env.rings := rfl
    have made : e.watched.endpoint.wakeupRx (u.watched before).env =
      ((e.endpoint.wakeupRx u.env).1, (e.endpoint.wakeupRx u.env).2.watched (before ++ [⟨.wakeupRx, u.env⟩])) := rfl
    rw [same, rings, made]
    split
    next =>
      obtain ⟨result, env⟩ := e.endpoint.wakeupRx u.env
      cases result <;> rfl
    next => rw [List.append_nil]

theorem turnAmid_watched :
    e.watched.turnAmid amid.watched (s.watched calls) = ((e.turnAmid amid s).1,
      (e.turnAmid amid s).2.watched (calls ++ e.turnCalls amid s)) := by
  have same : e.watched.poller = e.poller := rfl
  rw [turnAmid, turnAmid, same]
  cases poller : e.poller with
  | wait => exact waitingTurnAmid_watched e amid s calls poller
  | busy => exact busyTurnAmid_watched e amid s calls poller

theorem runAmid_watched (looks : Nat) :
    e.watched.runAmid amid.watched looks (s.watched calls) = ((e.runAmid amid looks s).1,
      (e.runAmid amid looks s).2.watched (calls ++ (e.turnStarts amid looks s).flatMap (e.turnCalls amid))) := by
  induction looks generalizing s calls with
  | zero =>
    rw [turnStarts, List.flatMap_nil, List.append_nil]
    rfl
  | succ looks ih =>
    have same : (s.watched calls).env.stop = s.env.stop := rfl
    rw [runAmid, runAmid, turnStarts, same, turnAmid_watched]
    by_cases stop : s.env.stop = true
    · rw [if_pos stop, if_pos stop, if_pos stop, List.flatMap_nil, List.append_nil]
      rfl
    · rw [if_neg stop, if_neg stop, if_neg stop, List.flatMap_cons, ← List.append_assoc]
      obtain ⟨result, t⟩ := e.turnAmid amid s
      cases result with
      | error error => rw [List.flatMap_nil, List.append_nil]
      | ok => exact ih _ _

end Watching

/-! ### Before the call, and after it -/

/-- The engine has gone from one state to another by writing descriptors on the transmit ring, which was then `ring`, from
where it stands there, and by publishing and counting them. It has taken nothing off the completion ring. -/
structure Submits (s t : EngineState σ ω) (ring : Ring Descriptor) (sent : List Descriptor) : Prop where
  tx : t.env.rings.tx = (ring.writeFrom s.tx.next sent).publish (.ofNat sent.length)
  outstandingTx : t.outstandingTx = s.outstandingTx + .ofNat sent.length
  completion : t.completion = s.completion

theorem process_submits (e : Engine σ ω) (descs : List Descriptor) (s : EngineState σ ω) :
    ∃ ring sent, Submits s (e.process descs s) ring sent := by
  have keeps : e.processor.Keeps fun _ => () := fun _ _ _ => rfl
  obtain ⟨verdicts, processorState, env, judged, -, -⟩ := judgeAll_eq keeps (fun _ _ => rfl) (fun _ _ _ => rfl) descs s
  obtain ⟨sent, returned, split, -, tx, -, -⟩ := exists_settle descs verdicts { s with processorState, env }
  have counted : (settle descs verdicts { s with processorState, env }).outstandingTx = s.outstandingTx +
    .ofNat (triage (admitted verdicts { s with processorState, env }) (descs.zip verdicts)).1.length := rfl
  rw [process, judged]
  refine ⟨env.rings.tx, sent.map Descriptor.outgoing, ?_, ?_, rfl⟩
  · rw [List.length_map]
    exact tx
  · rw [List.length_map, counted, split]

/-- Whatever is done meanwhile, the work on a batch submits the replies and counts them. -/
theorem workAmid_submits (e : Engine σ ω) (amid : Interference ω) (s : EngineState σ ω) :
    ∃ ring sent, Submits s (e.workAmid amid s).2 ring sent := by
  rw [workAmid]
  dsimp only
  split
  next => exact ⟨_, [], (Ring.publish_zero _).symm, (UInt32.add_zero _).symm, rfl⟩
  next =>
    obtain ⟨ring, sent, tx, outstandingTx, completion⟩ := e.process_submits (e.drain s).1
      ((EngineState.mapEnv (amid .drained) (e.drain s).2).replenish.mapEnv (amid .supplied))
    exact ⟨ring, sent, tx, outstandingTx, completion⟩

/-- What has been sent back is collected after the call, if there is one, and not when it fails. -/
theorem snd_reclaim (e : Engine σ ω) (s : EngineState σ ω) :
    (e.reclaim s).2 =
      if s.outstandingTx = 0 then s
      else if e.kicks s then
        match e.endpoint.kickTx s.env with
        | (.error _, env) => { s with env }
        | (.ok (), env) => collect { s with env }
      else collect s := by
  rw [reclaim]
  split
  next => rfl
  next =>
    split
    next =>
      obtain ⟨result, env⟩ := e.endpoint.kickTx s.env
      cases result <;> rfl
    next => rfl

/-- Whether or not a batch succeeds, the state is the one after reclaiming. -/
theorem snd_processBatchAmid (e : Engine σ ω) (amid : Interference ω) (s : EngineState σ ω) :
    (e.processBatchAmid amid s).2 = (e.reclaim (e.queuedAmid amid s)).2 := by
  rw [processBatchAmid]
  split
  next called => rw [called]
  next called => rw [called]

/-! ### What is sent is followed by a call -/

variable {held : ω → Custody}

/-- When the other side is always to be told, it is told in every batch that sends something, and then everything that the
batch sends is on the ring, and nothing has been collected. -/
theorem batchCalls_of_sent (confined : e.Confined l held) (lawful : amid.Lawful l held)
    (orderly : Orderly l (held s.env.world) s) (always : e.endpoint.needWakeup = false) :
    ∃ t sent, Precedes l held s t ∧ Sends t (e.workAmid amid s).2 sent ∧
      (e.queuedAmid amid s).env.rings.tx.producer = s.env.rings.tx.producer + .ofNat sent.length ∧
      (e.queuedAmid amid s).env.rings.completion.consumer = s.env.rings.completion.consumer ∧
      (e.processBatchAmid amid s).2.env.rings.tx.producer = (e.queuedAmid amid s).env.rings.tx.producer ∧
      (sent ≠ [] → e.batchCalls amid s = [⟨.kickTx, (e.queuedAmid amid s).env⟩]) := by
  obtain ⟨worked, t, sent, before, sends⟩ := workAmid_sends confined lawful orderly
  obtain ⟨-, -, tx, completion⟩ := orderly_meanwhile lawful .queued worked
  refine ⟨t, sent, before, sends, ?_, ?_, ?_, fun some => ?_⟩
  · refine tx.trans ?_
    rw [sends.tx, Ring.push, Ring.producer_publish, Ring.producer_writeFrom, before.tx]
  · refine completion.trans ?_
    rw [sends.completion, before.completion]
  · rw [snd_processBatchAmid]
    exact e.reclaim_invariant (P := fun u => u.env.rings.tx.producer = (e.queuedAmid amid s).env.rings.tx.producer) rfl
      (confined.kickTx _).cursors.1 fun same => same
  · have outstanding : (e.queuedAmid amid s).outstandingTx ≠ 0 := by
      intro none
      have count := worked.outstanding
      have length := List.length_pos_iff.mpr some
      have zero : (e.workAmid amid s).2.outstandingTx = 0 := none
      rw [zero, UInt32.toNat_zero, sends.pending, List.length_append] at count
      omega
    rw [batchCalls, kickCalls, if_pos ⟨outstanding, .inl always⟩]

/-! ### Every batch and every run -/

theorem call_of_mem_batchCalls {made : CallMade ω} (mem : made ∈ e.batchCalls amid s) : made.call = .kickTx := by
  rw [batchCalls, kickCalls] at mem
  split at mem
  next => rw [List.mem_singleton.mp mem]
  next => cases mem

theorem call_of_mem_wakeupCalls {made : CallMade ω} (mem : made ∈ e.wakeupCalls amid s) : made.call = .wakeupRx := by
  rw [wakeupCalls] at mem
  split at mem
  next =>
    dsimp only at mem
    split at mem
    next => rw [List.mem_singleton.mp mem]
    next => cases mem
  next => cases mem

theorem call_ne_wakeupRx_of_waits (waits : e.poller = .wait) {starts : List (EngineState σ ω)} {made : CallMade ω}
    (mem : made ∈ starts.flatMap (e.turnCalls amid)) : made.call ≠ .wakeupRx := by
  obtain ⟨s, -, mem⟩ := List.mem_flatMap.mp mem
  rw [turnCalls, waits, List.mem_cons] at mem
  rcases mem with rfl | mem
  · nofun
  · split at mem
    next =>
      rw [call_of_mem_batchCalls mem]
      nofun
    next => cases mem

theorem filter_wakeupRx_of_spins (spins : e.poller = .busy) (starts : List (EngineState σ ω)) :
    (starts.flatMap (e.turnCalls amid)).filter (·.call = .wakeupRx) = starts.flatMap (e.wakeupCalls amid) := by
  rw [List.filter_flatMap]
  congr 1
  funext s
  have kicks : (e.batchCalls amid s).filter (·.call = .wakeupRx) = [] :=
    List.filter_eq_nil_iff.mpr fun made mem => by simp [call_of_mem_batchCalls mem]
  have wakeups : (e.wakeupCalls amid s).filter (·.call = .wakeupRx) = e.wakeupCalls amid s :=
    List.filter_eq_self.mpr fun made mem => decide_eq_true (call_of_mem_wakeupCalls mem)
  rw [turnCalls, spins]
  dsimp only
  rw [List.filter_append, kicks, wakeups, List.nil_append]

/-- The other side is told of the rings when it has to be, once, and not otherwise. Take any engine in any state, and let
anything be done to the surroundings amid of its batches.

A batch submits its replies and counts them, and has collected nothing by then. If frames are outstanding, and the other
side is always to be told or the flag of the transmit ring is up, then it is told of the ring, once, and this is the only
call of the batch. Sent frames are collected after the call.

When the other side does to the rings only what it may, and is always to be told, then no batch puts a descriptor on the
transmit ring without a call. When the call is made, everything that the batch sends is published, and nothing has been
released on the completion ring.

The calls of a run are those of its turns. A busy engine has the other side look at the fill ring once after every batch
that has received nothing, if the other side sets flags and has set that of the fill ring, and at no other time. A waiting
engine never does.

When nothing is done meanwhile, these are the batches and the runs of an engine that is left alone. -/
theorem told_once_and_in_time (e : Engine σ ω) (amid : Interference ω) :
    (∀ (s : EngineState σ ω) (calls : List (CallMade ω)),
      let u := e.queuedAmid amid s
      (∃ ring sent, Submits s (e.workAmid amid s).2 ring sent) ∧
      e.watched.processBatchAmid amid.watched (s.watched calls) = ((e.processBatchAmid amid s).1,
        (e.processBatchAmid amid s).2.watched (calls ++
          if u.outstandingTx ≠ 0 ∧ (e.endpoint.needWakeup = false ∨ u.env.rings.tx.needsWakeup) then
            [⟨.kickTx, u.env⟩]
          else [])) ∧
      (e.processBatchAmid amid s).2 =
        if u.outstandingTx = 0 then u
        else if e.endpoint.needWakeup = false ∨ u.env.rings.tx.needsWakeup then
          match e.endpoint.kickTx u.env with
          | (.error _, env) => { u with env }
          | (.ok (), env) => collect { u with env }
        else collect u) ∧
    (∀ (l : Layout) (held : ω → Custody) (s : EngineState σ ω) (calls : List (CallMade ω)),
      e.Confined l held → amid.Lawful l held → e.Visited l held s → e.endpoint.needWakeup = false →
        ∃ t sent env, Precedes l held s t ∧ Sends t (e.workAmid amid s).2 sent ∧
          env.rings.tx.producer = s.env.rings.tx.producer + .ofNat sent.length ∧
          env.rings.completion.consumer = s.env.rings.completion.consumer ∧
          (e.processBatchAmid amid s).2.env.rings.tx.producer = env.rings.tx.producer ∧
          (sent ≠ [] → e.watched.processBatchAmid amid.watched (s.watched calls) = ((e.processBatchAmid amid s).1,
            (e.processBatchAmid amid s).2.watched (calls ++ [⟨.kickTx, env⟩])))) ∧
    (∀ (looks : Nat) (s : EngineState σ ω) (calls : List (CallMade ω)), ∃ made,
      e.watched.runAmid amid.watched looks (s.watched calls) =
        ((e.runAmid amid looks s).1, (e.runAmid amid looks s).2.watched (calls ++ made)) ∧
      made = (e.turnStarts amid looks s).flatMap (e.turnCalls amid) ∧
      (e.poller = .busy → made.filter (·.call = .wakeupRx) = (e.turnStarts amid looks s).flatMap (e.wakeupCalls amid)) ∧
      (e.poller = .wait → ∀ call ∈ made, call.call ≠ .wakeupRx)) ∧
    e.processBatchAmid .none = e.processBatch ∧ e.runAmid .none = e.run := by
  refine ⟨fun s calls => ⟨e.workAmid_submits amid s, e.processBatchAmid_watched amid s calls, ?_⟩, ?_, ?_, rfl, ?_⟩
  · rw [snd_processBatchAmid, snd_reclaim]
    simp only [← kicks_iff]
  · intro l held s calls confined lawful visited always
    obtain ⟨t, sent, before, sends, tx, completion, last, told⟩ :=
      batchCalls_of_sent confined lawful (visited.orderly confined) always
    refine ⟨t, sent, _, before, sends, tx, completion, last, fun some => ?_⟩
    rw [processBatchAmid_watched, told some]
  · intro looks s calls
    exact ⟨_, e.runAmid_watched amid s calls looks, rfl, fun spins => filter_wakeupRx_of_spins spins _,
      fun waits _ mem => call_ne_wakeupRx_of_waits waits mem⟩
  · funext looks s
    exact e.runAmid_none looks s

/-- A packet is sent back while the other side keeps the flag of the transmit ring down. It is told all the same, once, and
after the reply is on the ring. -/
theorem told_once_and_in_time_of_a_reply :
    let l : Layout := ⟨2048, 2, by decide, by decide⟩
    let e : Engine Unit Simulator :=
      ⟨⟨"mirror", fun packet state env => (.forward, packet, state, env)⟩, Simulator.endpoint false, 64, .busy,
        .ofMilliseconds 1000⟩
    let s₀ := e.start l () { Env.blank Simulator.idle with
      rings := ⟨.blank 2 0xffffffff, .blank 4 0, .blank 2 0xffffffff, .blank 1 7⟩, umem := .zeroed l }
    let s := e.act l s₀ (.deliver [7])
    let amid : Interference Simulator := fun _ env => { env with rings := env.rings.setFlags 0 .tx }
    ∃ env, s.env.rings.tx.producer = 0 ∧ env.rings.tx.producer = 1 ∧
      e.watched.processBatchAmid amid.watched (s.watched []) =
        ((e.processBatchAmid amid s).1, (e.processBatchAmid amid s).2.watched [⟨.kickTx, env⟩]) := by
  intro l e s₀ s amid
  have drives : e.DrivesSimulator := ⟨⟨false, rfl⟩, fun _ _ _ => rfl, fun _ _ _ => rfl, fun _ _ _ => rfl⟩
  have start : e.Visited l Simulator.custody s₀ :=
    .start () ⟨⟨2, 0xffffffff, rfl⟩, ⟨4, 0, rfl⟩, ⟨2, 0xffffffff, rfl⟩, ⟨1, 7, rfl⟩⟩ rfl
  have orderly := start.orderly drives.confined
  have visited : e.Visited l Simulator.custody s := start.kernel
    (Simulator.kernelRun_deliver [7] orderly.fill.lawful orderly.rx.lawful (List.append_subset.mp orderly.offered).1)
  have lawful : amid.Lawful l Simulator.custody := fun _ env => .single (.flag env.rings _ .tx 0)
  obtain ⟨t, sent, env, -, -, tx, -, last, told⟩ :=
    (told_once_and_in_time e amid).2.1 l Simulator.custody s [] drives.confined lawful visited rfl
  have before : s.env.rings.tx.producer = 0 := by decide +kernel
  have after : (e.processBatchAmid amid s).2.env.rings.tx.producer = 1 := by decide +kernel
  have one : env.rings.tx.producer = 1 := last.symm.trans after
  refine ⟨env, before, one, told ?_⟩
  rintro rfl
  rw [before, one] at tx
  cases tx

end Engine

end XdpEcho
