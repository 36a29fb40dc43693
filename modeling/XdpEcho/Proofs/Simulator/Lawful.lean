import XdpEcho.Engine.Run
import XdpEcho.Proofs.Engine.Progress

/-!
# The simulated kernel side is a kernel side

The simulated kernel side looks at the rings afresh at every move, while the engine keeps its views of them. Each of its
moves is done as a whole or not at all, does what the other side may do, and leaves the engine's views right.

* `Rings.Undisturbed`, `Orderly.kernelRun_undisturbed` — what any lawful step leaves to the engine.
* `Engine.Hosted`, `Engine.Hosted.housed` — the states that an engine over the simulated kernel side gets to.
* `Simulator.Delivers`, `Simulator.Transmits`, `Simulator.Completes` — what the moves do.
* `Engine.simulator_moves` — they do it in every such state.
-/

namespace XdpEcho

variable {σ ω : Type} {l : Layout} {c c' : Custody} {s : EngineState σ ω} {rings rings' rings'' : Rings}

/-! ### What the other side leaves alone -/

/-- The cursors that the engine owns are where they were. What has been posted for the engine is still there, in front of
what has come later, and what the engine has posted has been taken from the front only. -/
structure Rings.Undisturbed (rings rings' : Rings) : Prop where
  cursors : rings'.rx.consumer = rings.rx.consumer ∧ rings'.tx.producer = rings.tx.producer ∧
    rings'.fill.producer = rings.fill.producer ∧ rings'.completion.consumer = rings.completion.consumer
  rx : rings.rx.pending <+: rings'.rx.pending
  tx : rings'.tx.pending <:+ rings.tx.pending
  fill : rings'.fill.pending <:+ rings.fill.pending
  completion : rings.completion.pending <+: rings'.completion.pending

namespace Rings.Undisturbed

theorem refl (rings : Rings) : rings.Undisturbed rings where
  cursors := ⟨rfl, rfl, rfl, rfl⟩
  rx := List.prefix_refl _
  tx := List.suffix_refl _
  fill := List.suffix_refl _
  completion := List.prefix_refl _

theorem trans (first : rings.Undisturbed rings') (later : rings'.Undisturbed rings'') : rings.Undisturbed rings'' where
  cursors := by
    obtain ⟨rx, tx, fill, completion⟩ := first.cursors
    obtain ⟨rx', tx', fill', completion'⟩ := later.cursors
    exact ⟨rx'.trans rx, tx'.trans tx, fill'.trans fill, completion'.trans completion⟩
  rx := first.rx.trans later.rx
  tx := later.tx.trans first.tx
  fill := later.fill.trans first.fill
  completion := first.completion.trans later.completion

end Rings.Undisturbed

namespace Orderly

theorem kernelStep_undisturbed (orderly : Orderly l c (s.withRings rings))
    (step : KernelStep l (rings, c) (rings', c')) : rings.Undisturbed rings' := by
  have same := Rings.Undisturbed.refl rings
  cases step with
  | @takeFill _ _ addr rest oldest =>
    have left := (Ring.pending_consume_one oldest).2
    exact { same with fill := ⟨[addr], by rw [left, oldest]; rfl⟩ }
  | @postRx _ _ before after addr d taken here fits room =>
    have posted : (rings.rx.push [d]).pending = rings.rx.pending ++ [d] := orderly.rx.lawful.pending_push room
    exact { same with cursors := ⟨Ring.consumer_push _ _, rfl, rfl, rfl⟩, rx := posted ▸ List.prefix_append _ _ }
  | @takeTx _ _ d rest oldest =>
    have left := (Ring.pending_consume_one oldest).2
    exact { same with tx := ⟨[d], by rw [left, oldest]; rfl⟩ }
  | @postCompletion _ _ before after addr taken room =>
    have posted : (rings.completion.push [addr]).pending = rings.completion.pending ++ [addr] :=
      orderly.completion.lawful.pending_push room
    exact { same with
      cursors := ⟨rfl, rfl, rfl, Ring.consumer_push _ _⟩, completion := posted ▸ List.prefix_append _ _ }
  | flag _ _ role flags =>
    obtain ⟨rx, tx, fill, completion⟩ := rings.pending_setFlags flags role
    refine ⟨?_, rx ▸ List.prefix_refl _, tx ▸ List.suffix_refl _, fill ▸ List.suffix_refl _,
      completion ▸ List.prefix_refl _⟩
    cases role <;> exact ⟨rfl, rfl, rfl, rfl⟩

theorem kernelRun_undisturbed (orderly : Orderly l c (s.withRings rings))
    (run : KernelRun l (rings, c) (rings', c')) : rings.Undisturbed rings' := by
  suffices ∀ port : Rings × Custody, KernelRun l (rings, c) port → rings.Undisturbed port.1 from this _ run
  intro port run
  induction run with
  | refl => exact .refl rings
  | tail before step ih => exact ih.trans ((orderly.kernelRun before).kernelStep_undisturbed step)

end Orderly

namespace Engine

/-! ### The states of an engine over the simulated kernel side -/

variable {e : Engine σ Simulator} {s : EngineState σ Simulator}

/-- The states that an engine over the simulated kernel side gets to: moves and whole runs follow one another in any order,
and in between flags may be set, and whatever has nothing to do with rings, frames and the kernel side may change. -/
inductive Hosted (e : Engine σ Simulator) (l : Layout) : EngineState σ Simulator → Prop
  | start {env : Env Simulator} (processorState : σ) (opened : Opened l env) : Hosted e l (e.start l processorState env)
  | act {s : EngineState σ Simulator} (before : Hosted e l s) (move : Move) : Hosted e l (e.act l s move)
  | run {s : EngineState σ Simulator} (before : Hosted e l s) (looks : Nat) : Hosted e l (e.run looks s).2
  | flag {s : EngineState σ Simulator} (before : Hosted e l s) (role : RingRole) (flags : UInt32) :
      Hosted e l (s.withRings (s.env.rings.setFlags flags role))
  | aside {s : EngineState σ Simulator} {env : Env Simulator} (before : Hosted e l s) (rings : env.rings = s.env.rings)
      (umem : env.umem = s.env.umem) (world : env.world = s.env.world) : Hosted e l { s with env }

/-- Every frame is in one place, and the memory has room for all of them. -/
structure Housed (l : Layout) (s : EngineState σ Simulator) : Prop where
  orderly : Orderly l (Simulator.custody s.env.world) s
  umem : s.env.umem.size = l.capacity * l.frameSize.toNat

namespace Housed

/-- Only the rings, the size of the memory and what is in flight matter. -/
theorem around (housed : Housed l s) {env : Env Simulator} (rings : env.rings = s.env.rings)
    (umem : env.umem.size = s.env.umem.size) (inFlight : env.world.inFlight = s.env.world.inFlight) :
    Housed l { s with env } := by
  have held : Simulator.custody env.world = Simulator.custody s.env.world := congrArg (Custody.mk []) inFlight
  exact ⟨held ▸ housed.orderly.around s.processorState rings, umem.trans housed.umem⟩

theorem act (drives : e.DrivesSimulator) (housed : Housed l s) (move : Move) : Housed l (e.act l s move) := by
  refine ⟨?_, (size_umem_act drives housed.orderly move).trans housed.umem⟩
  by_cases batch : move = .batch
  · rw [batch]
    exact processBatch_orderly drives.confined housed.orderly
  · rw [act_eq_of_ne_batch batch]
    exact orderly_of_call housed.orderly (kernelRun_act housed.orderly batch)

theorem turn (drives : e.DrivesSimulator) (housed : Housed l s) : Housed l (e.turn s).2 := by
  obtain ⟨needWakeup, endpoint⟩ := drives.endpoint
  have batch := housed.act drives .batch
  rw [Engine.act] at batch
  rw [Engine.turn]
  split
  next =>
    rw [waitingTurn, endpoint]
    dsimp only [Simulator.endpoint]
    split
    next called =>
      rw [called] at batch
      exact batch
    next called =>
      rw [called] at batch
      exact batch
  next =>
    rw [busyTurn]
    split
    next called =>
      rw [called] at batch
      exact batch
    next called =>
      rw [called] at batch
      split
      next =>
        rw [endpoint]
        exact batch.around rfl rfl rfl
      next => exact batch

theorem run (drives : e.DrivesSimulator) (housed : Housed l s) (looks : Nat) : Housed l (e.run looks s).2 := by
  induction looks generalizing s with
  | zero => exact housed
  | succ looks ih =>
    have turned := housed.turn drives
    rw [Engine.run]
    split
    next => exact housed.around rfl rfl rfl
    next =>
      split
      next called =>
        rw [called] at turned
        exact turned
      next called =>
        rw [called] at turned
        exact ih turned

end Housed

theorem Hosted.housed (drives : e.DrivesSimulator) (hosted : e.Hosted l s) : Housed l s := by
  induction hosted with
  | start processorState opened =>
    refine ⟨?_, opened.umem⟩
    have held : Simulator.custody (e.start l processorState _).env.world = .empty := congrArg (Custody.mk []) opened.idle
    rw [held]
    exact e.start_orderly l processorState opened.rings
  | act _ move ih => exact ih.act drives move
  | run _ looks ih => exact ih.run drives looks
  | flag _ role flags ih => exact ⟨ih.orderly.flag role flags, ih.umem⟩
  | aside _ rings umem world ih => exact ih.around rings (congrArg Area.size umem) (congrArg Simulator.inFlight world)

end Engine

/-! ### What the moves do -/

namespace Simulator

/-- A packet has been received: the oldest frame has left the fill ring, a descriptor with the length of the packet has come
to the end of the receive ring, and exactly the bytes of the packet have been written at the start of the frame. -/
structure Delivers (packet : Bytes) (addr : UInt64) (env env' : Env Simulator) : Prop where
  fill : env.rings.fill.pending = addr :: env'.rings.fill.pending
  rx : env'.rings.rx.pending = env.rings.rx.pending ++ [⟨addr, .ofNat packet.length, 0⟩]
  length : (UInt32.ofNat packet.length).toNat = packet.length
  frame : frame addr packet.length env' = packet
  umem : env'.umem.content =
    env.umem.content.take addr.toNat ++ packet ++ env.umem.content.drop (addr.toNat + packet.length)
  rest : env' = { env with
    rings := { env.rings with fill := env'.rings.fill, rx := env'.rings.rx }, umem := env'.umem }

/-- Everything on the transmit ring has gone to the end of what is in flight. -/
structure Transmits (env env' : Env Simulator) : Prop where
  tx : env'.rings.tx.pending = []
  inFlight : env'.world.inFlight = env.world.inFlight ++ env.rings.tx.pending.map (·.addr)
  rest : env' = { env with
    rings := { env.rings with tx := env'.rings.tx }, world := { env.world with inFlight := env'.world.inFlight } }

/-- The oldest frames in flight have gone to the end of the completion ring. -/
structure Completes (count : Nat) (env env' : Env Simulator) : Prop where
  completion : env'.rings.completion.pending = env.rings.completion.pending ++ env.world.inFlight.take count
  inFlight : env'.world.inFlight = env.world.inFlight.drop count
  rest : env' = { env with
    rings := { env.rings with completion := env'.rings.completion }
    world := { env.world with inFlight := env'.world.inFlight } }

variable {packet : Bytes} {addr : UInt64} {env : Env Simulator}

theorem delivers_received (rx : env.rings.rx.Lawful) {rest : List UInt64}
    (oldest : env.rings.fill.pending = addr :: rest) (room : env.rings.rx.pendingCount.toNat < env.rings.rx.slots.size)
    (fits : packet.length ≤ l.frameSize.toNat) (inside : env.umem.Contains addr packet.length) :
    Delivers packet addr env (received packet addr env) where
  fill := by rw [oldest, received, (Ring.pending_consume_one oldest).2]
  rx := rx.pending_push room
  length := Layout.toNat_ofNat_length fits
  frame := by
    rw [frame, received, inside.read?_write_self (Nat.le_refl _), List.take_length]
    rfl
  umem := inside.content_write
  rest := rfl

theorem transmits (tx : env.rings.tx.Lawful) :
    (transmit env).1 = env.rings.tx.pending ∧ Transmits env (transmit env).2 := by
  rw [transmit_eq tx]
  exact ⟨rfl, Ring.pending_consume_all _, rfl, rfl⟩

theorem completes (completion : env.rings.completion.Lawful) (countable : env.world.inFlight.length < 2 ^ 32)
    (most : Nat) : (complete most env).1 = completable most env ∧
      Completes (completable most env) env (complete most env).2 := by
  rw [complete_eq most completion countable]
  exact ⟨rfl, completion.pending_push (room_for_completable most completion), rfl, rfl⟩

end Simulator

namespace Engine

variable {e : Engine σ Simulator} {s t : EngineState σ Simulator}

/-- A packet is received as a whole or not at all. -/
theorem Housed.delivers (housed : Housed l s) (packet : Bytes) :
    ((Simulator.deliver l packet s.env).1.isSome ↔ s.env.rings.fill.pending ≠ [] ∧
      s.env.rings.rx.pending.length < s.env.rings.rx.slots.size ∧ packet.length ≤ l.frameSize.toNat) ∧
    (∀ addr, (Simulator.deliver l packet s.env).1 = some addr →
      Simulator.Delivers packet addr s.env (Simulator.deliver l packet s.env).2) ∧
    ((Simulator.deliver l packet s.env).1 = none → (Simulator.deliver l packet s.env).2 = s.env) := by
  have orderly := housed.orderly
  rw [Simulator.deliver_eq l packet orderly.fill.lawful orderly.rx.lawful, Ring.length_pending]
  cases oldest : s.env.rings.fill.pending with
  | nil => simp
  | cons addr rest =>
    have inside (fits : packet.length ≤ l.frameSize.toNat) : s.env.umem.Contains addr packet.length :=
      orderly.contains_offered housed.umem (oldest ▸ List.mem_cons_self) fits
    dsimp only
    split
    next possible =>
      obtain ⟨room, fits, -⟩ := possible
      refine ⟨by simp [room, fits], fun other same => ?_, nofun⟩
      cases same
      exact Simulator.delivers_received orderly.rx.lawful oldest room fits (inside fits)
    next impossible =>
      refine ⟨⟨nofun, fun possible => ?_⟩, nofun, fun _ => rfl⟩
      exact absurd ⟨possible.2.1, possible.2.2, inside possible.2.2⟩ impossible

/-- From one state to another the other side has done what it may, and the engine, which has not been asked, is where it
was: its views are the same ones, and they are right about what is there now. -/
structure Respects (l : Layout) (s t : EngineState σ Simulator) : Prop where
  lawful : KernelRun l (s.env.port Simulator.custody) (t.env.port Simulator.custody)
  same : t = { s with env := t.env }
  undisturbed : s.env.rings.Undisturbed t.env.rings
  rx : s.rx.Tracks t.env.rings.rx
  tx : s.tx.Tracks t.env.rings.tx 0
  fill : s.fill.Tracks t.env.rings.fill 0
  completion : s.completion.Tracks t.env.rings.completion

theorem Housed.respects (housed : Housed l s) {move : Move} (other : move ≠ .batch) : Respects l s (e.act l s move) := by
  have run := kernelRun_act (e := e) housed.orderly other
  have orderly := orderly_of_call housed.orderly run
  exact {
    lawful := run, same := act_eq_of_ne_batch other
    undisturbed := Orderly.kernelRun_undisturbed (s := s) housed.orderly run
    rx := orderly.rx, tx := orderly.tx, fill := orderly.fill, completion := orderly.completion }

/-- The simulated kernel side is a kernel side, in every state that an engine and it get to together.

A packet is received exactly when a frame is offered, the receive ring has a free slot, and the packet is not longer than a
frame. Then the oldest offered frame goes to the end of the receive ring with the length of the packet, and the bytes of
the packet, and no others, are written there. Otherwise nothing at all changes. Sending takes everything off the transmit
ring, in order. Giving back takes as many of the oldest frames in flight as are asked for, are there, and have room.

Each move is a run of steps that the other side may take. None of them disturbs the engine: its cursors stay where they
are, what it has not read yet is still there, and the views that it has had all along are right about the rings. -/
theorem simulator_moves (drives : e.DrivesSimulator) (hosted : e.Hosted l s) :
    (∀ packet : Bytes,
      ((Simulator.deliver l packet s.env).1.isSome ↔ s.env.rings.fill.pending ≠ [] ∧
        s.env.rings.rx.pending.length < s.env.rings.rx.slots.size ∧ packet.length ≤ l.frameSize.toNat) ∧
      (∀ addr, (Simulator.deliver l packet s.env).1 = some addr →
        Simulator.Delivers packet addr s.env (Simulator.deliver l packet s.env).2) ∧
      ((Simulator.deliver l packet s.env).1 = none → (Simulator.deliver l packet s.env).2 = s.env)) ∧
    ((Simulator.transmit s.env).1 = s.env.rings.tx.pending ∧ Simulator.Transmits s.env (Simulator.transmit s.env).2) ∧
    (∀ most count : Nat, count = min most (min s.env.world.inFlight.length
        (s.env.rings.completion.slots.size - s.env.rings.completion.pending.length)) →
      (Simulator.complete most s.env).1 = count ∧ Simulator.Completes count s.env (Simulator.complete most s.env).2) ∧
    ∀ move, move ≠ .batch → Respects l s (e.act l s move) := by
  have housed := hosted.housed drives
  refine ⟨housed.delivers, Simulator.transmits housed.orderly.tx.lawful, ?_, fun move => housed.respects⟩
  rintro most _ rfl
  have count : min most (min s.env.world.inFlight.length
      (s.env.rings.completion.slots.size - s.env.rings.completion.pending.length)) =
        Simulator.completable most s.env := by
    rw [Simulator.completable, Ring.freeSlots, Ring.length_pending, Nat.min_assoc]
    rfl
  rw [count]
  exact Simulator.completes housed.orderly.completion.lawful housed.orderly.length_tx_lt most

/-- Two frames are offered. A short packet is received into one of them. One that is longer than a frame changes nothing,
and neither does giving back all frames in flight, of which there are none. -/
theorem simulator_moves_of_two_packets :
    let l : Layout := ⟨2048, 2, by decide, by decide⟩
    let e : Engine Unit Simulator := ⟨.icmp, Simulator.endpoint false, 64, .wait, .ofMilliseconds 1000⟩
    let s := e.start l () { Env.blank Simulator.idle with
      rings := ⟨.blank 2 0xffffffff, .blank 4 0, .blank 2 0xffffffff, .blank 1 7⟩, umem := .zeroed l }
    (∃ addr, (Simulator.deliver l [7, 8] s.env).1 = some addr ∧
      (Simulator.deliver l [7, 8] s.env).2.rings.rx.pending = [⟨addr, 2, 0⟩] ∧
      Simulator.frame addr 2 (Simulator.deliver l [7, 8] s.env).2 = [7, 8]) ∧
    Simulator.deliver l (List.replicate 2049 0) s.env = (none, s.env) ∧
    (Simulator.complete (2 ^ 64 - 1) s.env).1 = 0 ∧
      s.completion.Tracks (e.act l s (.complete (2 ^ 64 - 1))).env.rings.completion := by
  intro l e s
  have drives : e.DrivesSimulator := drivesSimulator_of_responder rfl rfl
  have hosted : e.Hosted l s :=
    .start () ⟨⟨⟨2, 0xffffffff, rfl⟩, ⟨4, 0, rfl⟩, ⟨2, 0xffffffff, rfl⟩, ⟨1, 7, rfl⟩⟩, Area.size_zeroed l, rfl⟩
  obtain ⟨deliver, -, complete, respects⟩ := simulator_moves drives hosted
  obtain ⟨received, moved, -⟩ := deliver [7, 8]
  obtain ⟨refused, -, unchanged⟩ := deliver (List.replicate 2049 0)
  have empty : s.env.rings.rx.pending = [] := by decide +kernel
  have lost : (Simulator.deliver l (List.replicate 2049 0) s.env).1 = none := by
    refine Option.not_isSome_iff_eq_none.mp fun some => absurd (refused.mp some).2.2 ?_
    rw [List.length_replicate]
    decide
  refine ⟨?_, Prod.ext lost (unchanged lost), (complete _ 0 (by decide +kernel)).1,
    (respects (.complete (2 ^ 64 - 1)) nofun).completion⟩
  obtain ⟨addr, found⟩ := Option.isSome_iff_exists.mp (received.mpr (by decide +kernel))
  have delivers := moved addr found
  refine ⟨addr, found, ?_, delivers.frame⟩
  rw [delivers.rx, empty]
  rfl

end Engine

end XdpEcho
