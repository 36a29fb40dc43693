import XdpEcho.Bench.Simulator
import XdpEcho.Proofs.Engine.Ownership
import XdpEcho.Proofs.Umem.Area

/-!
# What the simulated kernel side does

Each move of the simulated kernel side in terms of what is pending on the rings, and as steps that the other side of
the rings may take.

* `Simulator.deliver_eq`, `Simulator.transmit_eq`, `Simulator.complete_eq` — the moves.
* `Simulator.kernelRun_deliver`, `Simulator.kernelRun_transmit`, `Simulator.kernelRun_complete` — they are lawful.
-/

namespace XdpEcho

namespace Simulator

variable {l : Layout} {packet : Bytes} {env : Env Simulator}

/-! ### The moves -/

/-- The surroundings after a packet has been received into the frame at the front of the fill ring. -/
def received (packet : Bytes) (addr : UInt64) (env : Env Simulator) : Env Simulator :=
  { env with
    rings := { env.rings with
      fill := env.rings.fill.consume 1
      rx := env.rings.rx.push [⟨addr, .ofNat packet.length, 0⟩] }
    umem := env.umem.write addr packet }

/-- A packet is received when there is a frame, a slot, and room in the frame and in the umem, and otherwise nothing
changes. -/
theorem deliver_eq (l : Layout) (packet : Bytes) (fill : env.rings.fill.Lawful) (rx : env.rings.rx.Lawful) :
    deliver l packet env =
      match env.rings.fill.pending with
      | [] => (none, env)
      | addr :: _ =>
        if env.rings.rx.pendingCount.toNat < env.rings.rx.slots.size ∧ packet.length ≤ l.frameSize.toNat ∧
            env.umem.Contains addr packet.length then
          (some addr, received packet addr env)
        else (none, env) := by
  obtain ⟨available, view, peeked⟩ : ∃ available view,
    (Consumer.attach env.rings.fill).peek env.rings.fill.producer 1 = (available, view) := ⟨_, _, rfl⟩
  obtain ⟨tracks, next, least, -, refreshed, -⟩ := (Consumer.Tracks.attach fill).peek peeked
  have known := refreshed (.inr rfl)
  obtain ⟨free, view', asked⟩ : ∃ free view',
    (Producer.attach env.rings.rx).freeEntries env.rings.rx.consumer 1 = (free, view') := ⟨_, _, rfl⟩
  obtain ⟨tracks', -, -, least'⟩ := (Producer.Tracks.attach rx).freeEntries asked
  have bounded := rx.bounded
  rw [known] at least
  rw [UInt32.toNat_one] at least least'
  have room : free = 0 ↔ ¬ env.rings.rx.pendingCount.toNat < env.rings.rx.slots.size := by
    rw [← UInt32.toNat_inj, UInt32.toNat_zero]
    rw [Ring.freeSlots] at least'
    omega
  cases oldest : env.rings.fill.pending with
  | nil =>
    have none : available = 0 := by
      rw [← UInt32.toNat_inj, least, Ring.pending_eq_nil_iff.mp oldest]
      rfl
    simp only [deliver, peeked, asked]
    rw [if_pos (.inl none)]
  | cons addr rest =>
    obtain ⟨some, -⟩ := Ring.pending_consume_one oldest
    have one : available.toNat = 1 := by omega
    have notNone : available ≠ 0 := by
      intro none
      rw [none] at one
      cases one
    have front : env.rings.fill.read view.next = addr := by
      rw [tracks.next]
      exact Ring.read_consumer oldest
    obtain ⟨view₂, released, -, -⟩ := tracks.release 1 (by rw [known]; exact some)
    simp only [deliver, peeked, asked, front, released]
    by_cases full : free = 0
    · rw [if_pos (.inr (.inl full)), if_neg fun both => room.mp full both.1]
    by_cases large : l.frameSize.toNat < packet.length
    · rw [if_pos (.inr (.inr large)), if_neg fun both => absurd both.2.1 (Nat.not_le_of_lt large)]
    rw [if_neg (by tauto)]
    by_cases inside : env.umem.Contains addr packet.length
    · obtain ⟨view₃, reserved, -⟩ := tracks'.reserve_eq_some 1 (by
        have := Decidable.of_not_not fun h => full (room.mpr h)
        rw [UInt32.toNat_one, Ring.freeSlots]
        omega)
      rw [if_pos ⟨Decidable.of_not_not fun h => full (room.mpr h), Nat.le_of_not_lt large, inside⟩, inside.write?]
      simp only [reserved, tracks'.next_eq]
      rfl
    · have outside : env.umem.write? addr packet = none := if_neg inside
      rw [outside, if_neg fun both => inside both.2.2]

/-- Everything on the transmit ring is taken. -/
theorem transmit_eq (tx : env.rings.tx.Lawful) :
    transmit env = (env.rings.tx.pending,
      { env with
        rings := { env.rings with tx := env.rings.tx.consume env.rings.tx.pendingCount }
        world := { env.world with
          inFlight := env.world.inFlight ++ env.rings.tx.pending.map (·.addr) } }) := by
  obtain ⟨descs, view, ring, taken⟩ : ∃ descs view ring,
    (Consumer.attach env.rings.tx).take env.rings.tx 0xffffffff = (descs, view, ring) := ⟨_, _, _, rfl⟩
  obtain ⟨-, -, ring_eq, -, all⟩ := (Consumer.Tracks.attach tx).take taken
  obtain ⟨rfl, -⟩ := all (.inr rfl) (Nat.le_of_lt_succ env.rings.tx.pendingCount.toNat_lt)
  rw [Ring.length_pending, UInt32.ofNat_toNat] at ring_eq
  subst ring_eq
  simp only [transmit, taken]

/-- How many frames in flight can be given back when at most `most` are to be. -/
def completable (most : Nat) (env : Env Simulator) : Nat :=
  min (min most env.world.inFlight.length) (env.rings.completion.freeSlots 0)

theorem room_for_completable (most : Nat) (completion : env.rings.completion.Lawful) :
    env.rings.completion.pendingCount.toNat + (env.world.inFlight.take (completable most env)).length ≤
      env.rings.completion.slots.size :=
  completion.room_of_le_freeSlots ((List.length_take_le _ _).trans (Nat.min_le_right _ _))

/-- The oldest frames in flight are given back, as far as there is room. -/
theorem complete_eq (most : Nat) (completion : env.rings.completion.Lawful)
    (countable : env.world.inFlight.length < 2 ^ 32) :
    complete most env = (completable most env,
      { env with
        rings := { env.rings with
          completion := env.rings.completion.push (env.world.inFlight.take (completable most env)) }
        world := { env.world with inFlight := env.world.inFlight.drop (completable most env) } }) := by
  obtain ⟨free, view, asked⟩ : ∃ free view, (Producer.attach env.rings.completion).freeEntries
    env.rings.completion.consumer (.ofNat (min most env.world.inFlight.length)) = (free, view) := ⟨_, _, rfl⟩
  obtain ⟨tracks, -, -, least⟩ := (Producer.Tracks.attach completion).freeEntries asked
  have wanted : (UInt32.ofNat (min most env.world.inFlight.length)).toNat = min most env.world.inFlight.length := by
    rw [UInt32.toNat_ofNat']
    omega
  have toNat : (min free (UInt32.ofNat (min most env.world.inFlight.length))).toNat = completable most env := by
    rw [UInt32.toNat_min, least, wanted, completable, Nat.min_comm]
  have fits : (min free (UInt32.ofNat (min most env.world.inFlight.length))).toNat ≤
      env.rings.completion.freeSlots 0 := by
    rw [toNat, completable]
    exact Nat.min_le_right _ _
  obtain ⟨view', reserved, -⟩ := tracks.reserve_eq_some _ fits
  have length : (env.world.inFlight.take (completable most env)).length = completable most env := by
    rw [List.length_take, completable]
    omega
  have count : UInt32.ofNat (env.world.inFlight.take (completable most env)).length =
      min free (UInt32.ofNat (min most env.world.inFlight.length)) := by
    rw [length, ← toNat, UInt32.ofNat_toNat]
  simp only [complete, asked, reserved, tracks.next_eq, toNat, Ring.push, count]

/-! ### The moves are lawful -/

/-- What the simulated kernel side holds: received packets are posted at once, and sent frames stay in flight. -/
def custody (s : Simulator) : Custody := ⟨[], s.inFlight⟩

theorem kernelRun_deliver (packet : Bytes) (fill : env.rings.fill.Lawful) (rx : env.rings.rx.Lawful)
    (frames : env.rings.fill.pending ⊆ l.frames) :
    KernelRun l (env.port custody) ((deliver l packet env).2.port custody) := by
  rw [deliver_eq l packet fill rx]
  cases oldest : env.rings.fill.pending with
  | nil => exact .refl
  | cons addr rest =>
    dsimp only
    split
    next possible =>
      obtain ⟨room, fits, -⟩ := possible
      have start := Layout.frameBase_of_mem (frames (oldest ▸ List.mem_cons_self))
      have taken := KernelStep.takeFill (l := l) (c := custody env.world) oldest
      refine (Relation.ReflTransGen.single taken).tail ?_
      refine .postRx [] [] rfl rfl ?_ room
      rw [start, Layout.toNat_ofNat_length fits]
      exact Nat.add_le_add_left fits _
    next => exact .refl

/-- Taking all descriptors is taking one after the other. -/
theorem kernelRun_takeTx {r : Rings} {c : Custody} {descs : List Descriptor} (oldest : r.tx.pending = descs) :
    KernelRun l (r, c) ({ r with tx := r.tx.consume (.ofNat descs.length) },
      { c with tx := c.tx ++ descs.map (·.addr) }) := by
  induction descs generalizing r c with
  | nil =>
    have same : r.tx.consumer + .ofNat 0 = r.tx.consumer := UInt32.add_zero _
    rw [List.length_nil, Ring.consume, same, List.map_nil, List.append_nil]
  | cons d rest ih =>
    have taken := KernelStep.takeTx (l := l) (c := c) oldest
    have more := ih (r := { r with tx := r.tx.consume 1 }) (c := { c with tx := c.tx ++ [d.addr] })
      (Ring.pending_consume_one oldest).2
    rw [Ring.consume_consume, List.append_assoc] at more
    rw [List.length_cons, Nat.add_comm, UInt32.ofNat_add]
    exact .head taken more

theorem kernelRun_transmit (tx : env.rings.tx.Lawful) :
    KernelRun l (env.port custody) ((transmit env).2.port custody) := by
  rw [transmit_eq tx]
  have run := kernelRun_takeTx (l := l) (r := env.rings) (c := custody env.world) rfl
  rwa [Ring.length_pending, UInt32.ofNat_toNat] at run

/-- Posting several addresses is posting one after the other. -/
theorem kernelRun_postCompletion {r : Rings} {c : Custody} {addrs rest : List UInt64} (lawful : r.completion.Lawful)
    (taken : c.tx = addrs ++ rest)
    (room : r.completion.pendingCount.toNat + addrs.length ≤ r.completion.slots.size) :
    KernelRun l (r, c) ({ r with completion := r.completion.push addrs }, { c with tx := rest }) := by
  induction addrs generalizing r c with
  | nil =>
    obtain ⟨rx, tx⟩ := c
    cases taken
    rw [Ring.push_nil]
  | cons addr addrs ih =>
    rw [List.length_cons] at room
    have first : r.completion.pendingCount.toNat + [addr].length ≤ r.completion.slots.size := by
      rw [List.length_singleton]
      omega
    have posted := KernelStep.postCompletion (l := l) (r := r) (c := c) [] (addrs ++ rest) taken first
    have more := ih (r := { r with completion := r.completion.push [addr] }) (c := { c with tx := addrs ++ rest })
      (lawful.push first) rfl (by
        rw [lawful.toNat_pendingCount_push first, Ring.slots_size_push, List.length_singleton]
        omega)
    rw [Ring.push_push] at more
    exact .head posted more

theorem kernelRun_complete (most : Nat) (completion : env.rings.completion.Lawful)
    (countable : env.world.inFlight.length < 2 ^ 32) :
    KernelRun l (env.port custody) ((complete most env).2.port custody) := by
  rw [complete_eq most completion countable]
  exact kernelRun_postCompletion (c := custody env.world) completion (List.take_append_drop _ _).symm
    (room_for_completable most completion)

end Simulator

end XdpEcho
