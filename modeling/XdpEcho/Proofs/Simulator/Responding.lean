import Mathlib.Data.List.Forall2
import XdpEcho.Proofs.Simulator.Runs

/-!
# A batch of packets that are answered in place

What is in which frame before and after a batch whose processor answers in place. A packet is changed in its own frame,
and frames are different, so the packets of a batch do not meddle with each other, nor with anything else that is
received, queued or in flight.

* `Fate`, `fates` — what becomes of a packet, as its reply and the free slots of the transmit ring decide.
* `Holds.write_apart` — writing in one frame does not change what another one holds.
* `Engine.judgeAll_responder` — after the processor has run each frame holds its reply, or its packet.
* `Engine.processBatch_responder` — a batch queues the replies that have room, in order.
-/

namespace XdpEcho

/-- What has become of a packet that has been processed. -/
inductive Fate where
  /-- There is no reply to it. -/
  | refused
  /-- Its reply has found the transmit ring full. -/
  | overflowed
  /-- Its reply is on the transmit ring. -/
  | queued
  /-- Its reply has been taken off the transmit ring. -/
  | taken
  deriving DecidableEq

section Fates

variable (reply : Bytes → Except DropReason Bytes)

/-- What becomes of the packets of a batch when the transmit ring has `room` free slots. -/
def fates : Nat → List Bytes → List (Bytes × Fate)
  | _, [] => []
  | room, packet :: rest =>
    match reply packet, room with
    | .error _, room => (packet, .refused) :: fates room rest
    | .ok _, 0 => (packet, .overflowed) :: fates 0 rest
    | .ok _, room + 1 => (packet, .queued) :: fates room rest

/-- The replies to the packets of one fate, in the order of the packets. -/
def repliesTo (fate : Fate) (handled : List (Bytes × Fate)) : List Bytes :=
  handled.filterMap fun entry => if entry.2 = fate then (reply entry.1).toOption else none

/-- The verdict on a packet that is answered in place. -/
def verdictOn (packet : Bytes) : Verdict :=
  match reply packet with
  | .ok _ => .forward
  | .error _ => .drop

/-- What its frame holds after a packet has been answered in place. -/
def answered (packet : Bytes) : Bytes :=
  match reply packet with
  | .ok answer => answer
  | .error _ => packet

variable {reply} {packet answer : Bytes} {reason : DropReason}

theorem fates_refused (found : reply packet = .error reason) (room : Nat) (rest : List Bytes) :
    fates reply room (packet :: rest) = (packet, .refused) :: fates reply room rest := by
  cases room <;> simp [fates, found]

theorem fates_overflowed (found : reply packet = .ok answer) (rest : List Bytes) :
    fates reply 0 (packet :: rest) = (packet, .overflowed) :: fates reply 0 rest := by
  simp [fates, found]

theorem fates_queued (found : reply packet = .ok answer) (room : Nat) (rest : List Bytes) :
    fates reply (room + 1) (packet :: rest) = (packet, .queued) :: fates reply room rest := by
  simp [fates, found]

variable (reply)

@[simp]
theorem fates_nil (room : Nat) : fates reply room [] = [] := by
  cases room <;> rfl

theorem fates_ne_taken (room : Nat) (packets : List Bytes) : ∀ entry ∈ fates reply room packets, entry.2 ≠ .taken := by
  induction packets generalizing room with
  | nil => simp [fates]
  | cons packet rest ih =>
    cases found : reply packet with
    | error reason =>
      rw [fates_refused found, List.forall_mem_cons]
      exact ⟨nofun, ih room⟩
    | ok answer =>
      cases room with
      | zero =>
        rw [fates_overflowed found, List.forall_mem_cons]
        exact ⟨nofun, ih 0⟩
      | succ room =>
        rw [fates_queued found, List.forall_mem_cons]
        exact ⟨nofun, ih room⟩

theorem repliesTo_append (fate : Fate) (before after : List (Bytes × Fate)) :
    repliesTo reply fate (before ++ after) = repliesTo reply fate before ++ repliesTo reply fate after :=
  List.filterMap_append

end Fates

/-! ### Frames and what they hold -/

/-- The descriptor's bytes are the given ones. -/
def Holds (umem : Area) (d : Descriptor) (packet : Bytes) : Prop :=
  umem.read? d.addr d.len.toNat = some packet

variable {l : Layout} {umem : Area} {d : Descriptor} {packet : Bytes}

theorem Holds.length_eq (holds : Holds umem d packet) : packet.length = d.len.toNat :=
  Area.length_of_read? holds

theorem Holds.contains (holds : Holds umem d packet) : umem.Contains d.addr packet.length := by
  have length := holds.length_eq
  refine Decidable.of_not_not fun outside => ?_
  have none := Area.read?_eq_none_iff.mpr outside
  rw [Holds, ← length, none] at holds
  cases holds

/-- Writing over a packet. -/
theorem Holds.write_self (holds : Holds umem d packet) {data : Bytes} (same : data.length = packet.length) :
    Holds (umem.write d.addr data) d data := by
  have inside := holds.contains
  rw [← same] at inside
  have read := inside.read?_write_self (Nat.le_refl _)
  rwa [List.take_length, same, holds.length_eq] at read

/-- Writing in one frame does not change what another one holds. -/
theorem Holds.write_apart (holds : Holds umem d packet) (fits : d.FitsFrame l) {addr : UInt64} {data : Bytes}
    (within : addr.toNat + data.length ≤ (l.frameBase addr).toNat + l.frameSize.toNat)
    (ne : l.frameBase addr ≠ l.frameBase d.addr) : Holds (umem.write addr data) d packet := by
  have le := l.toNat_frameBase_le addr
  have le' := l.toNat_frameBase_le d.addr
  have fits : d.addr.toNat + d.len.toNat ≤ (l.frameBase d.addr).toNat + l.frameSize.toNat := fits
  refine (Area.read?_write_apart ?_).trans holds
  rcases Layout.frameBase_apart ne with below | above
  · exact .inl (within.trans (below.trans le'))
  · exact .inr (fits.trans (above.trans le))

/-- What holds of each pair of two lists follows for each pair when it follows for the members of the first list. -/
theorem forall₂_imp_of_mem {α β : Type} {R S : α → β → Prop} {as : List α} {bs : List β} (h : List.Forall₂ R as bs)
    (imp : ∀ a ∈ as, ∀ b, R a b → S a b) : List.Forall₂ S as bs :=
  ((List.forall₂_and_left _ _).mpr ⟨imp, h⟩).imp fun _ b both => both.1 b both.2

/-! ### Running the processor -/

namespace Engine

variable {σ : Type} {e : Engine σ Simulator} {s : EngineState σ Simulator} {reply : Bytes → Except DropReason Bytes}

/-- An engine drives the simulated kernel side and answers in place, with replies as long as the packets. -/
structure Responds (e : Engine σ Simulator) (reply : Bytes → Except DropReason Bytes) : Prop where
  endpoint : ∃ needWakeup, e.endpoint = Simulator.endpoint needWakeup
  processor : ∃ name, e.processor = .responder name reply
  sameLength : ∀ {packet answer : Bytes}, reply packet = .ok answer → answer.length = packet.length

theorem Responds.drives (responds : e.Responds reply) : e.DrivesSimulator := by
  obtain ⟨⟨_, endpoint⟩, ⟨_, processor⟩, -⟩ := responds
  exact drivesSimulator_of_responder processor endpoint

theorem Responds.length_answered (responds : e.Responds reply) (packet : Bytes) :
    (answered reply packet).length = packet.length := by
  rw [answered]
  split
  next found => exact responds.sameLength found
  next => rfl

/-- A packet is answered in its frame. -/
theorem judge_responder (responds : e.Responds reply) (holds : Holds s.env.umem d packet) :
    ∃ env, e.judge d s = (verdictOn reply packet, { s with env }) ∧ env.rings = s.env.rings ∧
      env.world = s.env.world ∧ env.umem = s.env.umem.write d.addr (answered reply packet) := by
  obtain ⟨_, processor⟩ := responds.processor
  have whole : (answered reply packet).take packet.length = answered reply packet := by
    rw [← responds.length_answered packet, List.take_length]
  have read : s.env.umem.read? d.addr d.len.toNat = some packet := holds
  rw [judge, read, processor]
  simp only [Processor.responder, Processor.respond]
  rw [answered] at whole
  rw [verdictOn, answered]
  cases found : reply packet with
  | ok answer =>
    rw [found] at whole
    exact ⟨_, rfl, rfl, rfl, congrArg (s.env.umem.write d.addr) whole⟩
  | error reason =>
    rw [found] at whole
    exact ⟨_, rfl, rfl, rfl, congrArg (s.env.umem.write d.addr) whole⟩

/-- Every packet of a batch is answered in its frame, and other frames are left alone. -/
theorem judgeAll_responder (responds : e.Responds reply) {descs : List Descriptor} {packets : List Bytes}
    (holds : List.Forall₂ (Holds s.env.umem) descs packets)
    (fits : ∀ d ∈ descs, d.FitsFrame l) (nodup : (descs.map fun d => l.frameBase d.addr).Nodup) :
    ∃ env, e.judgeAll descs s = (packets.map (verdictOn reply), { s with env }) ∧ env.rings = s.env.rings ∧
      env.world = s.env.world ∧ List.Forall₂ (Holds env.umem) descs (packets.map (answered reply)) ∧
      ∀ {d : Descriptor} {packet : Bytes}, d.FitsFrame l →
        l.frameBase d.addr ∉ descs.map (fun d => l.frameBase d.addr) → Holds s.env.umem d packet →
          Holds env.umem d packet := by
  induction descs generalizing s packets with
  | nil =>
    cases holds
    exact ⟨s.env, rfl, rfl, rfl, .nil, fun _ _ holds => holds⟩
  | cons d rest ih =>
    obtain ⟨packet, packets, here, later, rfl⟩ := List.forall₂_cons_left_iff.mp holds
    obtain ⟨fitsHere, fitsLater⟩ := List.forall_mem_cons.mp fits
    obtain ⟨fresh, nodup⟩ := List.nodup_cons.mp nodup
    have within : d.addr.toNat + (answered reply packet).length ≤ (l.frameBase d.addr).toNat + l.frameSize.toNat := by
      rw [responds.length_answered, here.length_eq]
      exact fitsHere
    obtain ⟨env, judged, rings, world, umem⟩ := judge_responder responds here
    -- The packets behind this one are in other frames, so they are as they were received.
    have afterwards : List.Forall₂ (Holds env.umem) rest packets := by
      refine forall₂_imp_of_mem later fun other mem _ holds => ?_
      rw [umem]
      exact holds.write_apart (fitsLater other mem) within fun eq => fresh (List.mem_map.mpr ⟨other, mem, eq.symm⟩)
    obtain ⟨env', judged', rings', world', held, kept⟩ := ih (s := { s with env }) afterwards fitsLater nodup
    refine ⟨env', ?_, rings'.trans rings, world'.trans world, .cons ?_ held, fun {other _} fits apart holds => ?_⟩
    · simp only [judgeAll, judged, judged', List.map_cons]
    · refine kept fitsHere fresh ?_
      rw [umem]
      exact here.write_self (responds.length_answered packet)
    · obtain ⟨ne, apart⟩ := not_or.mp (mt List.mem_cons.mpr apart)
      refine kept fits apart ?_
      rw [umem]
      exact holds.write_apart fits within (Ne.symm ne)

/-- The packets that are sent are the replies that find room. -/
theorem holds_sent {descs : List Descriptor} {packets : List Bytes}
    (held : List.Forall₂ (Holds umem) descs (packets.map (answered reply))) (room : Nat) :
    List.Forall₂ (Holds umem) (triage room (descs.zip (packets.map (verdictOn reply)))).1
      (repliesTo reply .queued (fates reply room packets)) := by
  induction descs generalizing packets room with
  | nil =>
    cases packets with
    | nil =>
      rw [List.zip_nil_left, triage_nil, fates_nil]
      exact .nil
    | cons => cases held
  | cons d rest ih =>
    cases packets with
    | nil => cases held
    | cons packet packets =>
      obtain ⟨here, later⟩ := List.forall₂_cons.mp held
      rw [List.map_cons, List.zip_cons_cons, verdictOn]
      rw [answered] at here
      cases found : reply packet with
      | error reason =>
        rw [triage_drop, fates_refused found]
        exact ih later room
      | ok answer =>
        rw [found] at here
        cases room with
        | zero =>
          rw [triage_forward_full, fates_overflowed found]
          exact ih later 0
        | succ room =>
          have first : repliesTo reply .queued (fates reply (room + 1) (packet :: packets)) =
              answer :: repliesTo reply .queued (fates reply room packets) := by
            rw [fates_queued found]
            simp [repliesTo, found, Except.toOption]
          rw [triage_forward, first]
          exact .cons here (ih later room)

/-- The engine has gone from one state to another by handling the first `count` of the packets that were waiting: their
replies are queued behind the others, as far as there was room, and whatever was not received is left alone. -/
structure Answers (l : Layout) (reply : Bytes → Except DropReason Bytes) (waiting : List Bytes) (count : Nat)
    (s t : EngineState σ Simulator) : Prop where
  received : List.Forall₂ (Holds t.env.umem) t.env.rings.rx.pending (waiting.drop count)
  queued : ∃ sent, t.env.rings.tx.pending = s.env.rings.tx.pending ++ sent ∧
    List.Forall₂ (Holds t.env.umem) sent
      (repliesTo reply .queued (fates reply (s.env.rings.tx.freeSlots 0) (waiting.take count)))
  inFlight : t.env.world.inFlight = s.env.world.inFlight
  kept : ∀ {d : Descriptor} {packet : Bytes}, d.FitsFrame l →
    l.frameBase d.addr ∉ (s.env.rings.rx.pending.map (·.addr)).map l.frameBase → Holds s.env.umem d packet →
      Holds t.env.umem d packet

theorem process_responder {c : Custody} (responds : e.Responds reply) (orderly : Orderly l c s) {waiting : List Bytes}
    (received : List.Forall₂ (Holds s.env.umem) s.env.rings.rx.pending waiting) {descs : List Descriptor}
    (oldest : descs <+: s.env.rings.rx.pending)
    (known : descs.length ≤ (s.rx.limit - s.rx.next).toNat) :
    Answers l reply waiting descs.length s (e.process descs s) := by
  obtain ⟨later, pending⟩ := oldest
  have bases : (s.env.rings.rx.pending.map (·.addr)).map l.frameBase =
      descs.map (fun d => l.frameBase d.addr) ++ later.map fun d => l.frameBase d.addr := by
    rw [← pending, List.map_map, List.map_append]
    rfl
  have inside := fun d mem => orderly.inside d (List.mem_append_left _ mem)
  -- Packets of the batch are in different frames, and none is in the frame of a packet behind the batch.
  have nodup := orderly.nodup_shared
  rw [List.map_append, List.map_append, bases] at nodup
  obtain ⟨nodupDescs, -, apart⟩ := List.nodup_append.mp (List.nodup_append.mp (List.nodup_append.mp nodup).2.1).1
  have first : List.Forall₂ (Holds s.env.umem) descs (waiting.take descs.length) := by
    have taken := List.forall₂_take descs.length received
    rwa [← pending, List.take_left] at taken
  have rest : List.Forall₂ (Holds s.env.umem) later (waiting.drop descs.length) := by
    have dropped := List.forall₂_drop descs.length received
    rwa [← pending, List.drop_left] at dropped
  rw [← pending] at inside
  obtain ⟨env, judged, rings, world, held, kept⟩ :=
    judgeAll_responder responds first (fun d mem => inside d (List.mem_append_left _ mem)) nodupDescs
  obtain ⟨sent, returned, split⟩ : ∃ sent returned, triage (env.rings.tx.freeSlots 0)
    (descs.zip ((waiting.take descs.length).map (verdictOn reply))) = (sent, returned) := ⟨_, _, rfl⟩
  have queued := holds_sent held (env.rings.tx.freeSlots 0)
  rw [split, rings] at queued
  have judgedOrderly : Orderly l c { s with env } := orderly.around s.processorState rings
  have length : ((waiting.take descs.length).map (verdictOn reply)).length = descs.length := by
    rw [List.length_map, ← first.length_eq]
  obtain ⟨rx, tx, settled, -, -, left, sentPending⟩ :=
    settle_eq (s := { s with env }) judgedOrderly.rx judgedOrderly.tx known length split
  rw [process, judged]
  simp only [settled]
  refine ⟨?_, ⟨sent.map Descriptor.outgoing, ?_, ?_⟩, congrArg _ world, ?_⟩
  · rw [left, rings, ← pending, List.drop_left]
    refine forall₂_imp_of_mem rest fun d mem _ holds => kept (inside d (List.mem_append_right _ mem)) ?_ holds
    intro here
    exact apart _ here _ (List.mem_map_of_mem mem) rfl
  · rw [sentPending, rings]
  · exact List.forall₂_map_left_iff.mpr queued
  · intro d packet fits away holds
    rw [bases] at away
    exact kept fits (fun here => away (List.mem_append_left _ here)) holds

/-- A batch answers the oldest of the packets that were waiting. -/
theorem processBatch_responder {c : Custody} (responds : e.Responds reply) (orderly : Orderly l c s)
    {waiting : List Bytes} (received : List.Forall₂ (Holds s.env.umem) s.env.rings.rx.pending waiting) :
    ∃ count t, e.processBatch s = (.ok count, t) ∧ Answers l reply waiting count s t := by
  obtain ⟨descs, rx, drained, tracks, oldest, known, -, -⟩ := e.drain_eq orderly.rx
  obtain ⟨t, processed, answers⟩ : ∃ t,
      (if descs.isEmpty then { s with rx } else e.process descs ({ s with rx } : EngineState σ Simulator).replenish) =
          t ∧ Answers l reply waiting descs.length s t := by
    refine ⟨_, rfl, ?_⟩
    split
    next none =>
      rw [List.isEmpty_iff.mp none]
      refine ⟨received, ⟨[], (List.append_nil _).symm, ?_⟩, rfl, fun _ _ holds => holds⟩
      simp [repliesTo]
    next =>
      have supplied : Orderly l c ({ s with rx } : EngineState σ Simulator).replenish :=
        Orderly.replenish { orderly with rx := tracks }
      obtain ⟨received, queued, inFlight, kept⟩ :=
        process_responder responds supplied received oldest known
      exact ⟨received, queued, inFlight, kept⟩
  obtain ⟨u, reclaimed, rx', tx', -, umem', inFlight'⟩ := reclaim_eq_ok responds.drives t
  refine ⟨descs.length, u, ?_, ?_⟩
  · simp only [processBatch, drained, processed, reclaimed]
  · refine ⟨?_, ?_, inFlight'.trans answers.inFlight, ?_⟩
    · rw [rx', umem']
      exact answers.received
    · rw [tx', umem']
      exact answers.queued
    · rw [umem']
      exact answers.kept

end Engine

end XdpEcho
