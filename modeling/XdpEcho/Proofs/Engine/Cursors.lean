import XdpEcho.Proofs.Egress.Outcomes
import XdpEcho.Proofs.Engine.Shift

/-!
# Where the cursors stand does not matter

An engine and the bare other side take turns in any order. The other side posts any descriptors and addresses, as far as
there is room, and takes what the engine has put on the rings; it also writes packets, sets the flags of the rings and
moves the stop flag. Over rings that start at a number other than zero all of this goes as it goes over rings that start
at zero, also when the cursors wrap.

* `BareMove`, `Engine.perform`, `Engine.trace` — the turns, and what there is to see of them.
* `Engine.perform_shift`, `Engine.trace_shift` — a turn, and any number of them.
* `EngineState.SameButCursors` — two states that differ in the cursors only.
* `Engine.cursors_immaterial` — rings that start anywhere, and rings that start at zero.
-/

namespace XdpEcho

variable {σ κ α : Type} {d : UInt32}

/-! ### The other side -/

/-- Something that the other side does with its views, whatever else there is. -/
def besides (act : Env Peer → α × Env Peer) : Env (Peer × κ) → α × Env (Peer × κ) :=
  Env.focus Prod.fst (fun peer world => (peer, world.2)) act

namespace Peer

theorem steady_postRx (descs : List Descriptor) :
    Steady (besides (postRx descs) : Env (Peer × κ) → Nat × Env (Peer × κ)) := by
  rintro d env _ ⟨rings, moved, rfl⟩
  obtain ⟨rx, pushed, movedRx⟩ := env.world.1.rx.push_shift moved.rx descs
  simp only [besides, Env.focus, Env.withWorld, postRx, Peer.shift, pushed]
  exact ⟨trivial, { rings with rx }, ⟨movedRx, moved.tx, moved.fill, moved.completion⟩, rfl⟩

theorem steady_postCompletions (addrs : List UInt64) :
    Steady (besides (postCompletions addrs) : Env (Peer × κ) → Nat × Env (Peer × κ)) := by
  rintro d env _ ⟨rings, moved, rfl⟩
  obtain ⟨completion, pushed, movedCompletion⟩ := env.world.1.completion.push_shift moved.completion addrs
  simp only [besides, Env.focus, Env.withWorld, postCompletions, Peer.shift, pushed]
  exact ⟨trivial, { rings with completion }, ⟨moved.rx, moved.tx, moved.fill, movedCompletion⟩, rfl⟩

theorem steady_takeFill (most : UInt32) :
    Steady (besides (takeFill most) : Env (Peer × κ) → List UInt64 × Env (Peer × κ)) := by
  rintro d env _ ⟨rings, moved, rfl⟩
  obtain ⟨fill, taken, movedFill⟩ := env.world.1.fill.take_shift moved.fill most
  simp only [besides, Env.focus, Env.withWorld, takeFill, Peer.shift, taken]
  exact ⟨trivial, { rings with fill }, ⟨moved.rx, moved.tx, movedFill, moved.completion⟩, rfl⟩

theorem steady_takeTx (most : UInt32) :
    Steady (besides (takeTx most) : Env (Peer × κ) → List Descriptor × Env (Peer × κ)) := by
  rintro d env _ ⟨rings, moved, rfl⟩
  obtain ⟨tx, taken, movedTx⟩ := env.world.1.tx.take_shift moved.tx most
  simp only [besides, Env.focus, Env.withWorld, takeTx, Peer.shift, taken]
  exact ⟨trivial, { rings with tx }, ⟨moved.rx, movedTx, moved.fill, moved.completion⟩, rfl⟩

/-- The calls to the bare other side, whatever else there is. -/
def endpointBesides (needWakeup : Bool) : Endpoint (Peer × κ) :=
  (endpoint needWakeup).focus Prod.fst fun peer world => (peer, world.2)

theorem steady_endpointBesides (needWakeup : Bool) : (endpointBesides needWakeup : Endpoint (Peer × κ)).Steady where
  waitReadable _ := by
    rintro d env _ ⟨rings, moved, rfl⟩
    exact ⟨congrArg (fun count : UInt32 => Except.ok (count != 0)) moved.rx.pendingCount, rings, moved, rfl⟩
  kickTx := by
    rintro d env _ ⟨rings, moved, rfl⟩
    exact ⟨rfl, rings, moved, rfl⟩
  wakeupRx := by
    rintro d env _ ⟨rings, moved, rfl⟩
    exact ⟨rfl, rings, moved, rfl⟩

end Peer

theorem Rings.ShiftedBy.setFlags {r r' : Rings} (moved : r.ShiftedBy d r') (flags : UInt32) (role : RingRole) :
    (r.setFlags flags role).ShiftedBy d (r'.setFlags flags role) := by
  cases role with
  | rx => exact { moved with rx := moved.rx.setFlags flags }
  | tx => exact { moved with tx := moved.tx.setFlags flags }
  | fill => exact { moved with fill := moved.fill.setFlags flags }
  | completion => exact { moved with completion := moved.completion.setFlags flags }

/-! ### Turns -/

/-- What happens next to an engine over bare rings. -/
inductive BareMove where
  /-- The engine handles a batch. -/
  | batch
  /-- The engine runs and looks at the stop flag at most `looks` times. -/
  | run (looks : Nat)
  /-- The engine lets go of the rings. -/
  | finish
  /-- Received descriptors are posted until the ring is full. -/
  | postRx (descs : List Descriptor)
  /-- Sent frames are posted until the ring is full. -/
  | postCompletions (addrs : List UInt64)
  /-- Up to `most` frames are taken off the fill ring. -/
  | takeFill (most : UInt32)
  /-- Up to `most` descriptors are taken off the transmit ring. -/
  | takeTx (most : UInt32)
  /-- Bytes are written into frames. -/
  | write (addr : UInt64) (data : Bytes)
  /-- The flags word of a ring is set. -/
  | setFlags (flags : UInt32) (role : RingRole)
  /-- The stop flag is raised or lowered. -/
  | setStop (stop : Bool)

/-- What a move returns. -/
inductive Outcome where
  /-- How many packets were received, or what went wrong. -/
  | batch (result : Except SocketError Nat)
  /-- How the run has ended, if it has. -/
  | run (result : Option (Except SocketError Unit))
  /-- How many entries were posted. -/
  | posted (count : Nat)
  /-- The addresses that were taken. -/
  | frames (addrs : List UInt64)
  /-- The descriptors that were taken. -/
  | packets (descs : List Descriptor)
  /-- Nothing. -/
  | done

namespace Engine

/-- What a move returns, and the state after it. -/
def perform (e : Engine σ (Peer × κ)) (s : EngineState σ (Peer × κ)) :
    BareMove → Outcome × EngineState σ (Peer × κ)
  | .batch =>
    let (result, s) := e.processBatch s
    (.batch result, s)
  | .run looks =>
    let (result, s) := e.run looks s
    (.run result, s)
  | .finish => (.done, finish s)
  | .postRx descs =>
    let (count, env) := besides (Peer.postRx descs) s.env
    (.posted count, { s with env })
  | .postCompletions addrs =>
    let (count, env) := besides (Peer.postCompletions addrs) s.env
    (.posted count, { s with env })
  | .takeFill most =>
    let (addrs, env) := besides (Peer.takeFill most) s.env
    (.frames addrs, { s with env })
  | .takeTx most =>
    let (descs, env) := besides (Peer.takeTx most) s.env
    (.packets descs, { s with env })
  | .write addr data => (.done, { s with env := { s.env with umem := s.env.umem.write addr data } })
  | .setFlags flags role => (.done, { s with env := { s.env with rings := s.env.rings.setFlags flags role } })
  | .setStop stop => (.done, { s with env := { s.env with stop } })

/-- What each of the moves returns, and the state after it. -/
def trace (e : Engine σ (Peer × κ)) :
    EngineState σ (Peer × κ) → List BareMove → List (Outcome × EngineState σ (Peer × κ))
  | _, [] => []
  | s, move :: rest => e.perform s move :: e.trace (e.perform s move).2 rest

variable {e : Engine σ (Peer × κ)} {s s' : EngineState σ (Peer × κ)}

/-- What the other side does with its views. -/
theorem steady_shift {call : Env (Peer × κ) → α × Env (Peer × κ)} (steady : Steady call) (shifted : s.ShiftedBy d s')
    (outcome : α → Outcome) :
    InStep (EngineState.ShiftedBy d) (outcome (call s.env).1, { s with env := (call s.env).2 })
      (outcome (call s'.env).1, { s' with env := (call s'.env).2 }) := by
  obtain ⟨answer, around⟩ := steady shifted.env
  exact ⟨congrArg outcome answer, shifted.withEnv around⟩

theorem perform_shift (aloof : e.processor.Aloof) (steady : e.endpoint.Steady) (shifted : s.ShiftedBy d s')
    (move : BareMove) :
    InStep (EngineState.ShiftedBy d) (e.perform s move) (e.perform s' move) := by
  cases move with
  | batch =>
    obtain ⟨result, after⟩ := (lockstep_shift aloof steady).processBatch shifted
    exact ⟨congrArg Outcome.batch result, after⟩
  | run looks =>
    obtain ⟨result, after⟩ := run_shift aloof steady looks shifted
    exact ⟨congrArg Outcome.run result, after⟩
  | finish => exact ⟨rfl, finish_shift shifted⟩
  | postRx descs => exact steady_shift (Peer.steady_postRx descs) shifted .posted
  | postCompletions addrs => exact steady_shift (Peer.steady_postCompletions addrs) shifted .posted
  | takeFill most => exact steady_shift (Peer.steady_takeFill most) shifted .frames
  | takeTx most => exact steady_shift (Peer.steady_takeTx most) shifted .packets
  | write addr data =>
    obtain ⟨_, ⟨rings, moved, rfl⟩, rfl⟩ := shifted
    exact ⟨rfl, _, ⟨rings, moved, rfl⟩, rfl⟩
  | setFlags flags role =>
    obtain ⟨_, ⟨rings, moved, rfl⟩, rfl⟩ := shifted
    exact ⟨rfl, _, ⟨rings.setFlags flags role, moved.setFlags flags role, rfl⟩, rfl⟩
  | setStop stop =>
    obtain ⟨_, ⟨rings, moved, rfl⟩, rfl⟩ := shifted
    exact ⟨rfl, _, ⟨rings, moved, rfl⟩, rfl⟩

theorem trace_shift (aloof : e.processor.Aloof) (steady : e.endpoint.Steady) (shifted : s.ShiftedBy d s')
    (moves : List BareMove) :
    List.Forall₂ (InStep (EngineState.ShiftedBy d)) (e.trace s moves) (e.trace s' moves) := by
  induction moves generalizing s s' with
  | nil => exact .nil
  | cons move rest ih =>
    have performed := perform_shift aloof steady shifted move
    exact .cons performed (ih performed.2)

end Engine

/-! ### Rings that start anywhere -/

/-- The cursors of all rings: the producer and the consumer of each. -/
def Rings.cursors (r : Rings) : List UInt32 :=
  [r.rx.producer, r.rx.consumer, r.tx.producer, r.tx.consumer, r.fill.producer, r.fill.consumer, r.completion.producer,
    r.completion.consumer]

/-- Nothing tells two states apart but the cursors, all of which are larger by the same number in the second one. -/
structure EngineState.SameButCursors (d : UInt32) (s s' : EngineState σ (Peer × κ)) : Prop where
  pool : s'.pool = s.pool
  outstandingTx : s'.outstandingTx = s.outstandingTx
  processorState : s'.processorState = s.processorState
  umem : s'.env.umem = s.env.umem
  stats : s'.env.stats = s.env.stats
  log : s'.env.log = s.env.log
  stop : s'.env.stop = s.env.stop
  besides : s'.env.world.2 = s.env.world.2
  received : s'.env.rings.rx.pending = s.env.rings.rx.pending
  queued : s'.env.rings.tx.pending = s.env.rings.tx.pending
  offered : s'.env.rings.fill.pending = s.env.rings.fill.pending
  sent : s'.env.rings.completion.pending = s.env.rings.completion.pending
  cursors : s'.env.rings.cursors = s.env.rings.cursors.map (· + d)

theorem Rings.ShiftedBy.cursors {r r' : Rings} (moved : r.ShiftedBy d r') : r'.cursors = r.cursors.map (· + d) := by
  simp only [Rings.cursors, moved.rx.producer, moved.rx.consumer, moved.tx.producer, moved.tx.consumer,
    moved.fill.producer, moved.fill.consumer, moved.completion.producer, moved.completion.consumer, List.map_cons,
    List.map_nil]

theorem EngineState.ShiftedBy.sameButCursors {s s' : EngineState σ (Peer × κ)} (shifted : s.ShiftedBy d s') :
    s.SameButCursors d s' := by
  obtain ⟨_, ⟨rings, moved, rfl⟩, rfl⟩ := shifted
  exact ⟨rfl, rfl, rfl, rfl, rfl, rfl, rfl, rfl, moved.rx.pending, moved.tx.pending, moved.fill.pending,
    moved.completion.pending, moved.cursors⟩

/-- Blank rings of the given sizes, all of which start at the same number. -/
def Rings.blank (rx tx fill completion start : UInt32) : Rings :=
  ⟨.blank rx start, .blank tx start, .blank fill start, .blank completion start⟩

/-- The other side is attached to the given rings. -/
def Env.overBare (rings : Rings) (env : Env κ) : Env (Peer × κ) :=
  { env.withWorld (Peer.attach rings, env.world) with rings }

theorem Rings.shiftedBy_blank {rx tx fill completion : UInt32} (powerRx : rx.toNat.isPowerOfTwo)
    (powerTx : tx.toNat.isPowerOfTwo) (powerFill : fill.toNat.isPowerOfTwo)
    (powerCompletion : completion.toNat.isPowerOfTwo) (start : UInt32) :
    (blank rx tx fill completion 0).ShiftedBy start (blank rx tx fill completion start) where
  rx := Ring.shiftedBy_blank powerRx start
  tx := Ring.shiftedBy_blank powerTx start
  fill := Ring.shiftedBy_blank powerFill start
  completion := Ring.shiftedBy_blank powerCompletion start

theorem Rings.ShiftedBy.overBare {r r' : Rings} (moved : r.ShiftedBy d r') (env : Env κ) :
    (env.overBare r).ShiftedBy d (env.overBare r') := by
  refine ⟨r', moved, ?_⟩
  have attached : Peer.attach r' = (Peer.attach r).shift d := by
    rw [Peer.attach, Peer.attach, Peer.shift, Producer.attach_shift moved.rx, Consumer.attach_shift moved.tx,
      Consumer.attach_shift moved.fill, Producer.attach_shift moved.completion]
  rw [Env.overBare, attached]
  rfl

/-- A call that neither sees nor moves the rings and the views of the other side. -/
def Aloof (call : Env (Peer × κ) → α × Env (Peer × κ)) : Prop :=
  ∀ (env : Env (Peer × κ)) (rings : Rings) (peer : Peer),
    call { env with rings, world := (peer, env.world.2) } =
      ((call env).1, { (call env).2 with rings, world := (peer, (call env).2.world.2) })

namespace Processor

theorem aloof_responder (name : String) (reply : Bytes → Except DropReason Bytes) :
    (responder name reply : Processor σ (Peer × κ)).Aloof := by
  intro packet state env rings peer
  simp only [responder, respond]
  cases reply packet with
  | ok => rfl
  | error => rfl

theorem aloof_egress {send : Bytes → Env (Peer × κ) → Except SystemError UInt64 × Env (Peer × κ)}
    (sends : ∀ frame, XdpEcho.Aloof (send frame)) : (egress send).Aloof := by
  intro packet failures env rings peer
  cases answered : EchoReply.ipv4 packet with
  | error =>
    rw [egress_of_error answered, egress_of_error answered]
    rfl
  | ok reply =>
    have aloof := sends reply env rings peer
    obtain ⟨result, env', called⟩ : ∃ result env', send reply env = (result, env') := ⟨_, _, rfl⟩
    rw [called] at aloof
    cases result with
    | ok => rw [egress_of_sent answered called, egress_of_sent answered aloof]
    | error error => rw [egress_of_refused answered called, egress_of_refused answered aloof]

end Processor

namespace Engine

/-- Where the cursors stand does not matter. Take four rings, each with as many slots as some power of two, any frames and
whatever else there is around, and any order of batches, runs and doings of the other side. Over rings that start at any
number `start` and over rings that start at zero each move returns the same, and after each of them there are the same
free frames in the same order, the same bytes, counters, events and outstanding frames, and the same entries on the four
rings; all eight cursors are exactly `start` apart, modulo the number of all cursors.

That holds of all processors that do not see the rings, as the ones that answer in place do not, and the one that answers
out of a link, when sending does not see them; and over all sockets that do not go by where the cursors stand, as the bare
one does not. -/
theorem cursors_immaterial :
    (∀ {σ κ : Type} {e : Engine σ (Peer × κ)}, e.processor.Aloof → e.endpoint.Steady →
      ∀ {rx tx fill completion : UInt32}, rx.toNat.isPowerOfTwo → tx.toNat.isPowerOfTwo →
        fill.toNat.isPowerOfTwo → completion.toNat.isPowerOfTwo →
          ∀ (l : Layout) (processorState : σ) (env : Env κ) (start : UInt32) (moves : List BareMove),
            let s (start : UInt32) := e.start l processorState (env.overBare (.blank rx tx fill completion start))
            (s 0).SameButCursors start (s start) ∧
              List.Forall₂ (fun seen seen' => seen'.1 = seen.1 ∧ seen.2.SameButCursors start seen'.2)
                (e.trace (s 0) moves) (e.trace (s start) moves)) ∧
      (∀ {σ κ : Type} (name : String) (reply : Bytes → Except DropReason Bytes),
        (Processor.responder name reply : Processor σ (Peer × κ)).Aloof) ∧
      (∀ {κ : Type} {send : Bytes → Env (Peer × κ) → Except SystemError UInt64 × Env (Peer × κ)},
        (∀ frame, Aloof (send frame)) → (Processor.egress send).Aloof) ∧
      ∀ {κ : Type} (needWakeup : Bool), (Peer.endpointBesides needWakeup : Endpoint (Peer × κ)).Steady := by
  refine ⟨?_, Processor.aloof_responder, Processor.aloof_egress, Peer.steady_endpointBesides⟩
  intro σ κ e aloof steady rx tx fill completion powerRx powerTx powerFill powerCompletion l processorState env start
    moves s
  have shifted : (s 0).ShiftedBy start (s start) :=
    start_shift e l processorState
      ((Rings.shiftedBy_blank powerRx powerTx powerFill powerCompletion start).overBare env)
  refine ⟨shifted.sameButCursors, (trace_shift aloof steady shifted moves).imp ?_⟩
  rintro seen seen' ⟨outcome, after⟩
  exact ⟨outcome, after.sameButCursors⟩

/-- Two packets are received, of which one fits on the transmit ring, is taken and comes back. Over rings that start at
the last number before the cursors wrap all this goes as it does over rings that start at zero, and in the end every
cursor has wrapped. -/
theorem cursors_immaterial_over_the_wrap :
    let l : Layout := ⟨2048, 2, by decide, by decide⟩
    let e : Engine Unit (Peer × Unit) :=
      ⟨.responder "mirror" .ok, Peer.endpointBesides false, 64, .wait, .ofMilliseconds 1000⟩
    let env : Env Unit := { Env.blank () with umem := .zeroed l }
    let s (start : UInt32) := e.start l () (env.overBare (.blank 2 1 2 1 start))
    let moves : List BareMove :=
      [.takeFill 1, .postRx [⟨2048, 1, 0⟩, ⟨0, 1, 0⟩], .batch, .takeTx 2, .postCompletions [2048], .batch]
    List.Forall₂ (fun seen seen' => seen'.1 = seen.1 ∧ seen.2.SameButCursors 0xffffffff seen'.2)
        (e.trace (s 0) moves) (e.trace (s 0xffffffff) moves) ∧
      ((e.trace (s 0) moves).map (·.2.env.rings.cursors)).getLast? = some [2, 2, 1, 1, 2, 1, 1, 1] ∧
      ((e.trace (s 0xffffffff) moves).map (·.2.env.rings.cursors)).getLast? = some [1, 1, 0, 0, 1, 0, 0, 0] := by
  intro l e env s moves
  have aloof : e.processor.Aloof := Processor.aloof_responder "mirror" .ok
  have steady : e.endpoint.Steady := Peer.steady_endpointBesides false
  have one : (1 : UInt32).toNat.isPowerOfTwo := ⟨0, rfl⟩
  have two : (2 : UInt32).toNat.isPowerOfTwo := ⟨1, rfl⟩
  obtain ⟨-, same⟩ := cursors_immaterial.1 aloof steady two one two one l () env 0xffffffff moves
  exact ⟨same, by decide +kernel, by decide +kernel⟩

end Engine

end XdpEcho
