import Mathlib.Data.List.Perm.Subperm
import Mathlib.Logic.Relation
import XdpEcho.Proofs.Engine.Phases

/-!
# Where the frames are

The engine and the other side of the rings hand frames to each other. Between them every frame is in exactly one
place: on the free stack, on one of the four rings, or with the other side, which has taken it off a ring and not put
it back yet.

* `KernelStep` — what the other side may do to the rings, and what it then holds.
* `Orderly` — the invariant: right views, a sound pool, and the partition of the frames over their places.
* `Orderly.kernelStep`, `Orderly.refill`, `Orderly.settle`, `Orderly.collect` — no step of either side breaks it.
* `Engine.Reachable.orderly` — it holds in every state of every run.
-/

namespace XdpEcho

/-! ### The other side -/

/-- The frames that the other side has taken off the rings and not put back, as the addresses that it found there. -/
structure Custody where
  /-- Taken off the fill ring, to receive packets. -/
  rx : List UInt64
  /-- Taken off the transmit ring, to be sent. -/
  tx : List UInt64

/-- What the other side may do to the rings, with what it holds before and after: it takes the oldest entry of a ring
that it consumes, and it posts what it has taken before on a ring that it produces, when there is room. A received
packet may begin anywhere inside its frame and does not reach beyond it. -/
inductive KernelStep (l : Layout) : Rings × Custody → Rings × Custody → Prop
  /-- It takes a frame to receive a packet. -/
  | takeFill {r : Rings} {c : Custody} {addr : UInt64} {rest : List UInt64} (oldest : r.fill.pending = addr :: rest) :
      KernelStep l (r, c) ({ r with fill := r.fill.consume 1 }, { c with rx := c.rx ++ [addr] })
  /-- It posts a packet that it has received into a frame. -/
  | postRx {r : Rings} {c : Custody} (before after : List UInt64) {addr : UInt64} {d : Descriptor}
      (taken : c.rx = before ++ addr :: after) (here : l.frameBase d.addr = l.frameBase addr)
      (fits : d.addr.toNat + d.len.toNat ≤ (l.frameBase addr).toNat + l.frameSize.toNat)
      (room : r.rx.pendingCount.toNat < r.rx.slots.size) :
      KernelStep l (r, c) ({ r with rx := r.rx.push [d] }, { c with rx := before ++ after })
  /-- It takes a packet to be sent. -/
  | takeTx {r : Rings} {c : Custody} {d : Descriptor} {rest : List Descriptor} (oldest : r.tx.pending = d :: rest) :
      KernelStep l (r, c) ({ r with tx := r.tx.consume 1 }, { c with tx := c.tx ++ [d.addr] })
  /-- It posts the frame of a packet that it has sent. -/
  | postCompletion {r : Rings} {c : Custody} (before after : List UInt64) {addr : UInt64}
      (taken : c.tx = before ++ addr :: after) (room : r.completion.pendingCount.toNat < r.completion.slots.size) :
      KernelStep l (r, c) ({ r with completion := r.completion.push [addr] }, { c with tx := before ++ after })
  /-- It sets the flags word of a ring. -/
  | flag (r : Rings) (c : Custody) (role : RingRole) (flags : UInt32) :
      KernelStep l (r, c) (r.setFlags flags role, c)

/-- What the other side works on: the rings, and what it holds, which is read off the surroundings. -/
abbrev Env.port {ω : Type} (held : ω → Custody) (env : Env ω) : Rings × Custody :=
  (env.rings, held env.world)

/-- Any number of steps of the other side. -/
abbrev KernelRun (l : Layout) : Rings × Custody → Rings × Custody → Prop :=
  Relation.ReflTransGen (KernelStep l)

/-! ### The invariant -/

variable {σ ω : Type} {l : Layout} {c : Custody} {s : EngineState σ ω}

/-- The places of the frames, with the addresses by which the frames are known there. -/
def EngineState.whereabouts (s : EngineState σ ω) (c : Custody) : List UInt64 :=
  s.pool.stack ++ s.env.rings.fill.pending ++ c.rx ++ s.env.rings.rx.pending.map (·.addr) ++
    s.env.rings.tx.pending.map (·.addr) ++ c.tx ++ s.env.rings.completion.pending

/-- The packet does not reach beyond the frame that it begins in. -/
def Descriptor.FitsFrame (d : Descriptor) (l : Layout) : Prop :=
  d.addr.toNat + d.len.toNat ≤ (l.frameBase d.addr).toNat + l.frameSize.toNat

/-- The views are right about the rings, the pool is sound and has refused nothing, and every frame is in one place. -/
structure Orderly (l : Layout) (c : Custody) (s : EngineState σ ω) : Prop where
  layout : s.pool.layout = l
  pool : s.pool.Sound
  rejected : s.pool.rejected = 0
  rx : s.rx.Tracks s.env.rings.rx
  tx : s.tx.Tracks s.env.rings.tx 0
  fill : s.fill.Tracks s.env.rings.fill 0
  completion : s.completion.Tracks s.env.rings.completion
  collected : s.completion.limit = s.completion.next
  partition : ((s.whereabouts c).map l.frameBase).Perm l.frames
  offered : s.env.rings.fill.pending ++ c.rx ⊆ l.frames
  inside : ∀ d ∈ s.env.rings.rx.pending ++ s.env.rings.tx.pending, d.FitsFrame l
  outstanding :
    s.outstandingTx.toNat =
      s.env.rings.tx.pending.length + c.tx.length + s.env.rings.completion.pending.length

/-- The same engine around other rings. -/
def EngineState.withRings (s : EngineState σ ω) (rings : Rings) : EngineState σ ω :=
  { s with env := { s.env with rings } }

namespace Orderly

/-- Only the rings of the surroundings matter. -/
theorem around (orderly : Orderly l c s) (processorState : σ) {env : Env ω} (same : env.rings = s.env.rings) :
    Orderly l c { s with processorState, env } := by
  cases env
  cases same
  exact ⟨orderly.layout, orderly.pool, orderly.rejected, orderly.rx, orderly.tx, orderly.fill, orderly.completion,
    orderly.collected, orderly.partition, orderly.offered, orderly.inside, orderly.outstanding⟩

theorem length_whereabouts (orderly : Orderly l c s) : (s.whereabouts c).length = l.capacity := by
  have length := orderly.partition.length_eq
  rwa [List.length_map, Layout.length_frames] at length

/-- Frames that are offered, received, queued or held for sending are different. -/
theorem nodup_shared (orderly : Orderly l c s) :
    ((s.env.rings.fill.pending ++ (s.env.rings.rx.pending.map (·.addr) ++ (s.env.rings.tx.pending.map (·.addr) ++
      c.tx))).map l.frameBase).Nodup := by
  have once := List.nodup_iff_count_le_one.mp (orderly.partition.nodup_iff.mpr l.nodup_frames)
  refine List.nodup_iff_count_le_one.mpr fun base => Nat.le_trans ?_ (once base)
  simp only [EngineState.whereabouts, List.map_append, List.count_append]
  omega

/-- The other side holds no more frames than there are. -/
theorem length_tx_lt (orderly : Orderly l c s) : c.tx.length < 2 ^ 32 := by
  have length := orderly.length_whereabouts
  have := l.capacity_lt
  simp only [EngineState.whereabouts, List.length_append] at length
  omega

/-- No more frames are outstanding than there are. -/
theorem outstanding_le (orderly : Orderly l c s) : s.outstandingTx.toNat ≤ l.capacity := by
  have total := orderly.length_whereabouts
  have outstanding := orderly.outstanding
  simp only [EngineState.whereabouts, List.length_append, List.length_map] at total
  omega

/-- The frames at hand, on the stack and on the fill ring, are known by where they start. -/
theorem map_frameBase_at_hand (orderly : Orderly l c s) :
    (s.pool.stack ++ s.env.rings.fill.pending).map l.frameBase = s.pool.stack ++ s.env.rings.fill.pending := by
  refine Layout.map_frameBase_of_subset (List.append_subset.mpr ⟨?_, ?_⟩)
  · rw [← orderly.layout]
    exact orderly.pool.frames
  · exact (List.append_subset.mp orderly.offered).1

/-- The frames at hand are those that are not anywhere else. -/
theorem perm_at_hand {t : EngineState σ ω} (orderly : Orderly l c s) (orderly' : Orderly l c t)
    (rx : s.env.rings.rx.pending = t.env.rings.rx.pending) (tx : s.env.rings.tx.pending = t.env.rings.tx.pending)
    (completion : s.env.rings.completion.pending = t.env.rings.completion.pending) :
    (s.pool.stack ++ s.env.rings.fill.pending).Perm (t.pool.stack ++ t.env.rings.fill.pending) := by
  rw [← orderly.map_frameBase_at_hand, ← orderly'.map_frameBase_at_hand, List.perm_iff_count]
  intro base
  have counts := (orderly.partition.trans orderly'.partition.symm).count_eq base
  simp only [EngineState.whereabouts, rx, tx, completion, List.map_append, List.count_append] at counts ⊢
  omega

end Orderly

/-! ### Steps of the other side -/

namespace Ring

variable {α : Type} [Inhabited α] {r : Ring α}

/-- Releasing the oldest entry. -/
theorem pending_consume_one {x : α} {rest : List α} (oldest : r.pending = x :: rest) :
    1 ≤ r.pendingCount.toNat ∧ (r.consume 1).pending = rest := by
  have count := congrArg List.length oldest
  rw [length_pending, List.length_cons] at count
  have le : (1 : UInt32).toNat ≤ r.pendingCount.toNat := by
    rw [UInt32.toNat_one]
    omega
  refine ⟨le, ?_⟩
  rw [pending_consume le, oldest]
  rfl

/-- The oldest entry is where the consumer stands. -/
theorem read_consumer {x : α} {rest : List α} (oldest : r.pending = x :: rest) : r.read r.consumer = x := by
  have some := (pending_consume_one oldest).1
  have first := r.getElem?_pending (i := 0) (by omega)
  rw [oldest, List.getElem?_cons_zero, Option.some.injEq] at first
  rw [first]
  exact congrArg r.read (UInt32.add_zero _).symm

end Ring

/-- Flags have nothing to do with what is pending. -/
theorem Rings.pending_setFlags (r : Rings) (flags : UInt32) (role : RingRole) :
    (r.setFlags flags role).rx.pending = r.rx.pending ∧ (r.setFlags flags role).tx.pending = r.tx.pending ∧
      (r.setFlags flags role).fill.pending = r.fill.pending ∧
      (r.setFlags flags role).completion.pending = r.completion.pending := by
  cases role <;> simp [setFlags]

namespace Orderly

/-- Taking the partition apart and putting it together otherwise. -/
theorem repartition {t : EngineState σ ω} {c' : Custody} (orderly : Orderly l c s)
    (same : ∀ base, ((t.whereabouts c').map l.frameBase).count base = ((s.whereabouts c).map l.frameBase).count base) :
    ((t.whereabouts c').map l.frameBase).Perm l.frames :=
  (List.perm_iff_count.mpr same).trans orderly.partition

/-- Frames that are away are put on the stack, whatever else is away. -/
theorem releaseAll (orderly : Orderly l c s) {addrs : List UInt64} (others : List UInt64)
    (same : ∀ base, ((s.pool.stack ++ (addrs ++ others)).map l.frameBase).count base =
      ((s.whereabouts c).map l.frameBase).count base) :
    s.pool.Restacked (s.pool.releaseAll addrs) ((addrs.map l.frameBase).reverse ++ s.pool.stack) := by
  have partition := (List.perm_iff_count.mpr same).trans orderly.partition
  have sound := orderly.pool
  rw [← orderly.layout] at partition ⊢
  have nodup := partition.nodup_iff.mpr s.pool.layout.nodup_frames
  rw [List.map_append, Layout.map_frameBase_of_subset sound.frames] at nodup partition
  rw [List.map_append] at nodup partition
  obtain ⟨-, nodup, disjoint⟩ := List.nodup_append.mp nodup
  refine sound.releaseAll (List.nodup_append.mp nodup).1 (fun base mem => ?_) fun base mem here => ?_
  · exact partition.subset (List.mem_append_right _ (List.mem_append_left _ mem))
  · exact disjoint base here base (List.mem_append_left _ mem) rfl

section KernelSteps

variable {rings : Rings}

theorem takeFill (orderly : Orderly l c (s.withRings rings)) {addr : UInt64} {rest : List UInt64}
    (oldest : rings.fill.pending = addr :: rest) :
    Orderly l { c with rx := c.rx ++ [addr] } (s.withRings { rings with fill := rings.fill.consume 1 }) := by
  obtain ⟨some, left⟩ := Ring.pending_consume_one oldest
  have offered := orderly.offered
  refine { orderly with fill := orderly.fill.consume some, partition := ?_, offered := ?_ }
  · refine orderly.repartition fun base => ?_
    simp only [EngineState.whereabouts, EngineState.withRings, oldest, left, List.map_append, List.map_cons,
      List.count_append, List.count_cons, List.map_nil, List.count_nil]
    omega
  · simp only [EngineState.withRings, oldest, left] at offered ⊢
    rw [← List.append_assoc]
    exact fun x mem => offered (by simp at mem ⊢; tauto)

theorem postRx (orderly : Orderly l c (s.withRings rings)) {before after : List UInt64} {addr : UInt64}
    {d : Descriptor} (taken : c.rx = before ++ addr :: after) (here : l.frameBase d.addr = l.frameBase addr)
    (fits : d.addr.toNat + d.len.toNat ≤ (l.frameBase addr).toNat + l.frameSize.toNat)
    (room : rings.rx.pendingCount.toNat < rings.rx.slots.size) :
    Orderly l { c with rx := before ++ after } (s.withRings { rings with rx := rings.rx.push [d] }) := by
  have pending : (rings.rx.push [d]).pending = rings.rx.pending ++ [d] := orderly.rx.lawful.pending_push room
  refine { orderly with rx := orderly.rx.push room, partition := ?_, offered := ?_, inside := ?_ }
  · -- The descriptor may begin anywhere in the frame, and the frame is the one that was taken.
    refine orderly.repartition fun base => ?_
    simp only [EngineState.whereabouts, EngineState.withRings, taken, pending, here, List.map_append,
      List.map_cons, List.count_append, List.count_cons, List.map_nil, List.count_nil]
    omega
  · have offered := orderly.offered
    simp only [EngineState.withRings, taken] at offered ⊢
    exact fun x mem => offered (by simp at mem ⊢; tauto)
  · intro other mem
    simp only [EngineState.withRings, pending, List.mem_append, List.mem_singleton] at mem
    rcases mem with (mem | rfl) | mem
    · exact orderly.inside other (List.mem_append_left _ mem)
    · rwa [Descriptor.FitsFrame, here]
    · exact orderly.inside other (List.mem_append_right _ mem)

theorem takeTx (orderly : Orderly l c (s.withRings rings)) {d : Descriptor} {rest : List Descriptor}
    (oldest : rings.tx.pending = d :: rest) :
    Orderly l { c with tx := c.tx ++ [d.addr] } (s.withRings { rings with tx := rings.tx.consume 1 }) := by
  obtain ⟨some, left⟩ := Ring.pending_consume_one oldest
  have outstanding := orderly.outstanding
  refine { orderly with tx := orderly.tx.consume some, partition := ?_, inside := ?_, outstanding := ?_ }
  · refine orderly.repartition fun base => ?_
    simp only [EngineState.whereabouts, EngineState.withRings, oldest, left, List.map_append, List.map_cons,
      List.count_append, List.count_cons, List.map_nil, List.count_nil]
    omega
  · intro other mem
    refine orderly.inside other ?_
    simp only [EngineState.withRings, oldest, left, List.mem_append, List.mem_cons] at mem ⊢
    tauto
  · simp only [EngineState.withRings, oldest, left, List.length_cons, List.length_append] at outstanding ⊢
    rw [outstanding]
    simp
    omega

theorem postCompletion (orderly : Orderly l c (s.withRings rings)) {before after : List UInt64} {addr : UInt64}
    (taken : c.tx = before ++ addr :: after)
    (room : rings.completion.pendingCount.toNat < rings.completion.slots.size) :
    Orderly l { c with tx := before ++ after }
      (s.withRings { rings with completion := rings.completion.push [addr] }) := by
  have pending : (rings.completion.push [addr]).pending = rings.completion.pending ++ [addr] :=
    orderly.completion.lawful.pending_push room
  have outstanding := orderly.outstanding
  refine { orderly with completion := orderly.completion.push room, partition := ?_, outstanding := ?_ }
  · refine orderly.repartition fun base => ?_
    simp only [EngineState.whereabouts, EngineState.withRings, taken, pending, List.map_append,
      List.map_cons, List.count_append, List.count_cons, List.map_nil, List.count_nil]
    omega
  · simp only [EngineState.withRings, taken, pending, List.length_cons, List.length_append] at outstanding ⊢
    rw [outstanding]
    simp
    omega

theorem flag (orderly : Orderly l c (s.withRings rings)) (role : RingRole) (flags : UInt32) :
    Orderly l c (s.withRings (rings.setFlags flags role)) := by
  obtain ⟨rx, tx, fill, completion⟩ := rings.pending_setFlags flags role
  have whereabouts : (s.withRings (rings.setFlags flags role)).whereabouts c = (s.withRings rings).whereabouts c := by
    simp only [EngineState.whereabouts, EngineState.withRings, rx, tx, fill, completion]
  refine { orderly with
    rx := ?_, tx := ?_, fill := ?_, completion := ?_
    partition := whereabouts ▸ orderly.partition, offered := ?_, inside := ?_, outstanding := ?_ }
  -- Only the ring with the role gets flags, the other three are what they were.
  · cases role <;> first | exact orderly.rx | exact orderly.rx.setFlags flags
  · cases role <;> first | exact orderly.tx | exact orderly.tx.setFlags flags
  · cases role <;> first | exact orderly.fill | exact orderly.fill.setFlags flags
  · cases role <;> first | exact orderly.completion | exact orderly.completion.setFlags flags
  · simpa only [EngineState.withRings, fill] using orderly.offered
  · simpa only [EngineState.withRings, rx, tx] using orderly.inside
  · simpa only [EngineState.withRings, tx, completion] using orderly.outstanding

theorem kernelStep {rings' : Rings} {c' : Custody} (orderly : Orderly l c (s.withRings rings))
    (step : KernelStep l (rings, c) (rings', c')) : Orderly l c' (s.withRings rings') := by
  cases step with
  | takeFill oldest => exact orderly.takeFill oldest
  | postRx before after taken here fits room => exact orderly.postRx taken here fits room
  | takeTx oldest => exact orderly.takeTx oldest
  | postCompletion before after taken room => exact orderly.postCompletion taken room
  | flag _ _ role flags => exact orderly.flag role flags

end KernelSteps

theorem kernelRun {rings rings' : Rings} {c c' : Custody} (orderly : Orderly l c (s.withRings rings))
    (run : KernelRun l (rings, c) (rings', c')) : Orderly l c' (s.withRings rings') := by
  -- The run is taken from its start, so the invariant is carried from one port to the next.
  suffices ∀ port : Rings × Custody, KernelRun l (rings, c) port → Orderly l port.2 (s.withRings port.1) from
    this _ run
  intro port run
  induction run with
  | refl => exact orderly
  | tail _ step ih => exact ih.kernelStep step

/-! ### Steps of the engine -/

/-- Draining moves nothing: the oldest received packets stay on their ring, and the view now knows of them. -/
theorem drain (orderly : Orderly l c s) {e : Engine σ ω} {t : EngineState σ ω} {descs : List Descriptor}
    (drained : e.drain s = (descs, t)) :
    ∃ rx, t = { s with rx } ∧ Orderly l c { s with rx } ∧ rx.next = s.rx.next ∧
      descs <+: s.env.rings.rx.pending ∧ descs.length ≤ (rx.limit - rx.next).toNat := by
  obtain ⟨descs', rx, drained', tracks, oldest, known, -, -⟩ := e.drain_eq orderly.rx
  obtain ⟨rfl, rfl⟩ := Prod.mk.inj (drained'.symm.trans drained)
  exact ⟨rx, rfl, { orderly with rx := tracks }, tracks.next.trans orderly.rx.next.symm, oldest, known⟩

/-- Offering frames moves them from the stack to the fill ring. -/
theorem refill (orderly : Orderly l c s) (most : UInt32) : Orderly l c (s.refill most).2 := by
  obtain ⟨fill, pool, refilled, tracks, restacked⟩ := EngineState.refill_eq orderly.fill orderly.pool most
  have fits : (s.pool.stack.take (s.env.rings.fill.offerable most)).length ≤ s.env.rings.fill.freeSlots 0 := by
    rw [List.length_take, Ring.offerable]
    omega
  have pending := orderly.fill.lawful.pending_push (orderly.fill.lawful.room_of_le_freeSlots fits)
  rw [refilled]
  refine { orderly with
    layout := restacked.layout.trans orderly.layout, pool := restacked.sound
    rejected := restacked.rejected.trans orderly.rejected
    fill := tracks, partition := ?_, offered := ?_ }
  · refine orderly.repartition fun base => ?_
    have split : s.pool.stack.take (s.env.rings.fill.offerable most) ++
        s.pool.stack.drop (s.env.rings.fill.offerable most) = s.pool.stack := List.take_append_drop _ _
    have count := congrArg (fun addrs => (addrs.map l.frameBase).count base) split
    simp only [List.map_append, List.count_append] at count
    simp only [EngineState.whereabouts, restacked.stack, pending, List.map_append, List.count_append]
    omega
  · have taken : s.pool.stack.take (s.env.rings.fill.offerable most) ⊆ l.frames := by
      rw [← orderly.layout]
      exact List.Subset.trans (List.take_subset _ _) orderly.pool.frames
    have offered := orderly.offered
    simp only [List.append_subset, pending] at offered ⊢
    exact ⟨⟨offered.1, taken⟩, offered.2⟩

theorem replenish (orderly : Orderly l c s) : Orderly l c s.replenish :=
  orderly.refill _

/-- Frames of the oldest received packets that are not sent go on the stack. -/
theorem restacked (orderly : Orderly l c s) {descs later sent returned : List Descriptor}
    (received : descs ++ later = s.env.rings.rx.pending) (perm : (sent ++ returned).Perm descs) :
    s.pool.Restacked (s.pool.releaseAll (returned.map (·.addr)))
      (((returned.map (·.addr)).map l.frameBase).reverse ++ s.pool.stack) := by
  refine orderly.releaseAll (s.env.rings.fill.pending ++ c.rx ++ sent.map (·.addr) ++ later.map (·.addr) ++
    s.env.rings.tx.pending.map (·.addr) ++ c.tx ++ s.env.rings.completion.pending) fun base => ?_
  have count := ((perm.map (·.addr)).map l.frameBase).count_eq base
  simp only [List.map_append, List.count_append] at count
  simp only [EngineState.whereabouts, ← received, List.map_append, List.count_append, ← count]
  omega

/-- A drained batch is judged: every frame that it took is sent or back on the stack. -/
theorem settle (orderly : Orderly l c s) {descs : List Descriptor} {verdicts : List Verdict}
    (drained : descs <+: s.env.rings.rx.pending)
    (known : descs.length ≤ (s.rx.limit - s.rx.next).toNat) (same : verdicts.length = descs.length) :
    Orderly l c (Engine.settle descs verdicts s) := by
  obtain ⟨sent, returned, split⟩ : ∃ sent returned,
    triage (s.env.rings.tx.freeSlots 0) (descs.zip verdicts) = (sent, returned) := ⟨_, _, rfl⟩
  obtain ⟨rx, tx, settled, rxTracks, txTracks, left, pending⟩ :=
    Engine.settle_eq orderly.rx orderly.tx known same split
  have perm := perm_of_triage same split
  obtain ⟨later, received⟩ := drained
  have restacked := orderly.restacked received perm
  rw [← received, List.drop_left] at left
  have addrs : (sent.map Descriptor.outgoing).map (·.addr) = sent.map (·.addr) := by
    rw [List.map_map]
    rfl
  -- How often a frame occurs in the batch is how often it is sent and given back.
  have counts (base : UInt64) : ((descs.map (·.addr)).map l.frameBase).count base =
      ((sent.map (·.addr)).map l.frameBase).count base + ((returned.map (·.addr)).map l.frameBase).count base := by
    have count := ((perm.map (·.addr)).map l.frameBase).count_eq base
    rw [List.map_append, List.map_append, List.count_append] at count
    exact count.symm
  rw [settled]
  refine { orderly with
    layout := restacked.layout.trans orderly.layout, pool := restacked.sound
    rejected := restacked.rejected.trans orderly.rejected
    rx := rxTracks, tx := txTracks, partition := ?_, inside := ?_, outstanding := ?_ }
  · refine orderly.repartition fun base => ?_
    simp only [EngineState.whereabouts, restacked.stack, left, ← received, pending, List.map_append, addrs,
      List.count_append, List.map_reverse, List.count_reverse, Layout.map_frameBase_frameBase, counts]
    omega
  · intro d mem
    have inside := orderly.inside
    simp only [← received, List.mem_append] at inside
    simp only [left, pending, List.mem_append, List.mem_map] at mem
    rcases mem with mem | mem | ⟨d, mem, rfl⟩
    · exact inside d (.inl (.inr mem))
    · exact inside d (.inr mem)
    · exact inside d (.inl (.inl (perm.subset (List.mem_append_left _ mem))))
  · have total := orderly.length_whereabouts
    have capacity := l.capacity_lt
    have outstanding := orderly.outstanding
    have length := perm.length_eq
    simp only [EngineState.whereabouts, ← received, List.length_append, List.length_map] at total length
    simp only [pending, List.length_append, List.length_map, UInt32.toNat_add, UInt32.toNat_ofNat']
    omega

/-- Collecting moves everything on the completion ring to the stack. -/
theorem collect (orderly : Orderly l c s) : Orderly l c (Engine.collect s) := by
  obtain ⟨completion, collected, tracks, fresh⟩ := Engine.collect_eq orderly.completion orderly.collected
  have left := s.env.rings.completion.pending_consume_all
  have restacked : s.pool.Restacked (s.pool.releaseAll s.env.rings.completion.pending)
      ((s.env.rings.completion.pending.map l.frameBase).reverse ++ s.pool.stack) := by
    refine orderly.releaseAll (s.env.rings.fill.pending ++ c.rx ++ s.env.rings.rx.pending.map (·.addr) ++
      s.env.rings.tx.pending.map (·.addr) ++ c.tx) fun base => ?_
    simp only [EngineState.whereabouts, List.map_append, List.count_append]
    omega
  rw [collected]
  refine { orderly with
    layout := restacked.layout.trans orderly.layout, pool := restacked.sound
    rejected := restacked.rejected.trans orderly.rejected
    completion := tracks, collected := fresh, partition := ?_, outstanding := ?_ }
  · refine orderly.repartition fun base => ?_
    simp only [EngineState.whereabouts, restacked.stack, left, List.map_append, List.count_append, List.map_reverse,
      List.count_reverse, Layout.map_frameBase_frameBase, List.map_nil, List.count_nil]
    omega
  · have outstanding := orderly.outstanding
    have count := s.env.rings.completion.length_pending
    simp only [left, List.length_nil]
    have le : min s.env.rings.completion.pendingCount s.outstandingTx ≤ s.outstandingTx := by
      rw [UInt32.le_iff_toNat_le, UInt32.toNat_min]
      exact Nat.min_le_right _ _
    rw [UInt32.toNat_sub_of_le _ _ le, UInt32.toNat_min]
    omega

end Orderly

/-! ### Batches -/

namespace Engine

variable {e : Engine σ ω} {held : ω → Custody}

/-- The processor sees packets only, and when the other side is told of the transmit ring, it does to the rings what it
may do at any time, whether or not the call succeeds. -/
structure Confined (e : Engine σ ω) (l : Layout) (held : ω → Custody) : Prop where
  keepsRings : e.processor.Keeps (·.rings)
  keepsCustody : e.processor.Keeps (held ·.world)
  kickTx : ∀ env : Env ω, KernelRun l (env.port held) ((e.endpoint.kickTx env).2.port held)

theorem Confined.keepsPort (confined : e.Confined l held) : e.processor.Keeps (Env.port held) :=
  fun packet state env => Prod.ext (confined.keepsRings packet state env) (confined.keepsCustody packet state env)

/-- Whatever the surroundings were changed by, the rings have been changed by the other side only. -/
theorem orderly_of_call {env : Env ω} (orderly : Orderly l (held s.env.world) s)
    (run : KernelRun l (s.env.port held) (env.port held)) : Orderly l (held env.world) { s with env } :=
  (Orderly.kernelRun (s := s) orderly run).around s.processorState rfl

theorem reclaim_orderly (confined : e.Confined l held) (orderly : Orderly l (held s.env.world) s) :
    Orderly l (held (e.reclaim s).2.env.world) (e.reclaim s).2 := by
  have told := orderly_of_call orderly (confined.kickTx s.env)
  exact e.reclaim_invariant (P := fun t => Orderly l (held t.env.world) t) orderly told fun kept => kept.collect

theorem process_orderly (confined : e.Confined l held) (orderly : Orderly l (held s.env.world) s)
    {descs : List Descriptor} (drained : descs <+: s.env.rings.rx.pending)
    (known : descs.length ≤ (s.rx.limit - s.rx.next).toNat) :
    Orderly l (held (e.process descs s).env.world) (e.process descs s) := by
  obtain ⟨verdicts, processorState, env, judged, length, same⟩ :=
    judgeAll_eq confined.keepsPort (fun _ _ => rfl) (fun _ _ _ => rfl) descs s
  obtain ⟨rings, custody⟩ := Prod.mk.inj same
  rw [process, judged]
  rw [← custody] at orderly
  refine (orderly.around processorState rings).settle ?_ known length
  rwa [rings]

theorem work_orderly (confined : e.Confined l held) (orderly : Orderly l (held s.env.world) s) :
    Orderly l (held (e.work s).2.env.world) (e.work s).2 := by
  obtain ⟨descs, rx, drained, tracks, oldest, known, -, -⟩ := e.drain_eq orderly.rx
  have afterDrain : Orderly l (held s.env.world) { s with rx } := { orderly with rx := tracks }
  simp only [work, drained]
  split
  next => exact afterDrain
  next => exact process_orderly confined afterDrain.replenish oldest known

theorem processBatch_orderly (confined : e.Confined l held) (orderly : Orderly l (held s.env.world) s) :
    Orderly l (held (e.processBatch s).2.env.world) (e.processBatch s).2 := by
  rw [snd_processBatch]
  exact reclaim_orderly confined (work_orderly confined orderly)

end Engine

/-! ### Every run -/

/-- Nothing is held. -/
def Custody.empty : Custody := ⟨[], []⟩

/-- Rings of any sizes, with nothing on them and their cursors anywhere. -/
structure Rings.Created (rings : Rings) : Prop where
  rx : ∃ size start, Ring.create size start = .ok rings.rx
  tx : ∃ size start, Ring.create size start = .ok rings.tx
  fill : ∃ size start, Ring.create size start = .ok rings.fill
  completion : ∃ size start, Ring.create size start = .ok rings.completion

/-- Before the first frame is offered every frame is on the stack. -/
theorem orderly_attach (l : Layout) (processorState : σ) {env : Env ω} (created : env.rings.Created) :
    Orderly l .empty (EngineState.attach l processorState env) := by
  obtain ⟨⟨_, _, rx⟩, ⟨_, _, tx⟩, ⟨_, _, fill⟩, ⟨_, _, completion⟩⟩ := created
  obtain ⟨rxLawful, rxEmpty, -⟩ := Ring.create_eq_ok rx
  obtain ⟨txLawful, txEmpty, -⟩ := Ring.create_eq_ok tx
  obtain ⟨fillLawful, fillEmpty, -⟩ := Ring.create_eq_ok fill
  obtain ⟨completionLawful, completionEmpty, -⟩ := Ring.create_eq_ok completion
  have level : env.rings.completion.producer = env.rings.completion.consumer := by
    rw [Ring.producer_eq, Ring.pending_eq_nil_iff.mp completionEmpty]
    exact UInt32.add_zero _
  refine {
    layout := rfl, pool := FramePool.sound_full l, rejected := rfl
    rx := .attach rxLawful, tx := .attach txLawful, fill := .attach fillLawful
    completion := .attach completionLawful, collected := level, partition := ?_, offered := ?_, inside := ?_
    outstanding := ?_ }
  · simp only [EngineState.whereabouts, EngineState.attach, FramePool.stack_full, rxEmpty, txEmpty, fillEmpty,
      completionEmpty, Custody.empty, List.map_nil, List.append_nil]
    rw [Layout.map_frameBase_of_subset (List.reverse_subset.mpr (List.Subset.refl _))]
    exact List.reverse_perm _
  · simp [EngineState.attach, fillEmpty, Custody.empty]
  · simp [EngineState.attach, rxEmpty, txEmpty]
  · simp [EngineState.attach, txEmpty, completionEmpty, Custody.empty]

namespace Engine

variable {e : Engine σ ω} {held : ω → Custody}

theorem start_orderly (e : Engine σ ω) (l : Layout) (processorState : σ) {env : Env ω} (created : env.rings.Created) :
    Orderly l .empty (e.start l processorState env) :=
  ((orderly_attach l processorState created).refill _).around _ rfl

theorem world_start (e : Engine σ ω) (l : Layout) (processorState : σ) (env : Env ω) :
    (e.start l processorState env).env.world = env.world := rfl

/-- The states that an engine can get to: it starts over rings with nothing on them while the other side holds nothing,
and then batches and steps of the other side follow one another in any order. The other side may also do anything to the
surroundings that has nothing to do with the rings. -/
inductive Reachable (e : Engine σ ω) (l : Layout) (held : ω → Custody) : EngineState σ ω → Prop
  | start {env : Env ω} (processorState : σ) (created : env.rings.Created) (nothing : held env.world = .empty) :
      Reachable e l held (e.start l processorState env)
  | batch {s : EngineState σ ω} (before : Reachable e l held s) : Reachable e l held (e.processBatch s).2
  | kernel {s : EngineState σ ω} {env : Env ω} (before : Reachable e l held s)
      (run : KernelRun l (s.env.port held) (env.port held)) : Reachable e l held { s with env }

theorem Reachable.orderly (confined : e.Confined l held) (reachable : e.Reachable l held s) :
    Orderly l (held s.env.world) s := by
  induction reachable with
  | start processorState created nothing =>
    rw [world_start, nothing]
    exact e.start_orderly l processorState created
  | batch _ ih => exact processBatch_orderly confined ih
  | kernel _ run ih => exact orderly_of_call ih run

end Engine

end XdpEcho
