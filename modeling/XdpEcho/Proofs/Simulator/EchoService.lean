import XdpEcho.Proofs.Packet.EchoReply
import XdpEcho.Proofs.Simulator.Responding

/-!
# The echo service

What an engine that answers in place does for whoever sees only packets and descriptors: the packets that were
delivered, what became of those that were processed, what was sent, and what was given back.

* `Ledger`, `Ledger.record`, `Engine.Served` — runs, with what is seen of them.
* `Serving` — the invariant: what is seen and what the frames hold agree.
* `Engine.echo_service` — what is sent are the replies, in order, and they stay as they are until they are given back.
-/

namespace XdpEcho

/-! ### What is seen of a run -/

/-- Queued replies are taken. -/
def Fate.take : Fate → Fate
  | .queued => .taken
  | fate => fate

/-- What is seen of a run from outside. -/
structure Ledger where
  /-- The packets for which there was a frame. -/
  delivered : List Bytes
  /-- The packets that have been processed, and what has become of them. -/
  handled : List (Bytes × Fate)
  /-- The descriptors taken for sending, with what their frames held then. -/
  sent : List (Descriptor × Bytes)
  /-- How many frames have been given back. -/
  completed : Nat

namespace Ledger

/-- Nothing has been seen. -/
def empty : Ledger := ⟨[], [], [], 0⟩

/-- The packets that have been delivered and not been processed. -/
def waiting (g : Ledger) : List Bytes :=
  g.delivered.drop g.handled.length

/-- The descriptors that have been taken and not been given back. -/
def inFlight (g : Ledger) : List (Descriptor × Bytes) :=
  g.sent.drop g.completed

/-- What a move adds. -/
def record {σ : Type} (reply : Bytes → Except DropReason Bytes) (e : Engine σ Simulator) (l : Layout)
    (s : EngineState σ Simulator) (g : Ledger) : Move → Ledger
  | .deliver packet =>
    match (Simulator.deliver l packet s.env).1 with
    | some _ => { g with delivered := g.delivered ++ [packet] }
    | none => g
  | .transmit =>
    let (descs, env) := Simulator.transmit s.env
    { g with
      handled := g.handled.map fun entry => (entry.1, entry.2.take)
      sent := g.sent ++ descs.map fun d => (d, Simulator.frame d.addr d.len.toNat env) }
  | .complete most => { g with completed := g.completed + (Simulator.complete most s.env).1 }
  | .batch =>
    match (e.processBatch s).1 with
    | .ok count =>
      { g with handled := g.handled ++ fates reply (s.env.rings.tx.freeSlots 0) (g.waiting.take count) }
    | .error _ => g

end Ledger

/-- The states that an engine over the simulated kernel side can get to, with what has been seen on the way. -/
inductive Engine.Served {σ : Type} (e : Engine σ Simulator) (l : Layout) (reply : Bytes → Except DropReason Bytes) :
    EngineState σ Simulator → Ledger → Prop
  | start {env : Env Simulator} (processorState : σ) (opened : Engine.Opened l env) :
      Engine.Served e l reply (e.start l processorState env) .empty
  | act {s : EngineState σ Simulator} {g : Ledger} (before : Engine.Served e l reply s g) (move : Move) :
      Engine.Served e l reply (e.act l s move) (g.record reply e l s move)

/-! ### Replies and fates -/

section Replies

variable {reply : Bytes → Except DropReason Bytes}

/-- Replies are taken in order. -/
def OldestTaken (handled : List (Bytes × Fate)) : Prop :=
  handled.Pairwise fun before after => before.2 = .queued → after.2 ≠ .taken

theorem repliesTo_eq_nil {fate : Fate} {handled : List (Bytes × Fate)} (other : ∀ entry ∈ handled, entry.2 ≠ fate) :
    repliesTo reply fate handled = [] :=
  List.filterMap_eq_nil_iff.mpr fun entry mem => if_neg (other entry mem)

theorem repliesTo_cons_same (packet : Bytes) (fate : Fate) (rest : List (Bytes × Fate)) :
    repliesTo reply fate ((packet, fate) :: rest) = (reply packet).toOption.toList ++ repliesTo reply fate rest := by
  cases found : reply packet <;> simp [repliesTo, found, Except.toOption]

theorem repliesTo_cons_other {fate other : Fate} (ne : other ≠ fate) (packet : Bytes) (rest : List (Bytes × Fate)) :
    repliesTo reply fate ((packet, other) :: rest) = repliesTo reply fate rest := by
  simp [repliesTo, ne]

theorem map_fst_fates (room : Nat) (packets : List Bytes) : (fates reply room packets).map (·.1) = packets := by
  induction packets generalizing room with
  | nil => rw [fates_nil, List.map_nil]
  | cons packet rest ih =>
    cases found : reply packet with
    | error reason => rw [fates_refused found, List.map_cons, ih]
    | ok answer =>
      cases room with
      | zero => rw [fates_overflowed found, List.map_cons, ih]
      | succ room => rw [fates_queued found, List.map_cons, ih]

theorem length_fates (room : Nat) (packets : List Bytes) : (fates reply room packets).length = packets.length := by
  rw [← List.length_map (·.1), map_fst_fates]

/-- Once queued replies are taken, none is queued. -/
theorem repliesTo_queued_take (handled : List (Bytes × Fate)) :
    repliesTo reply .queued (handled.map fun entry => (entry.1, entry.2.take)) = [] := by
  refine repliesTo_eq_nil fun entry mem => ?_
  obtain ⟨⟨_, fate⟩, -, rfl⟩ := List.mem_map.mp mem
  cases fate <;> nofun

/-- Queued replies are taken behind those that have been taken before. -/
theorem repliesTo_taken_take {handled : List (Bytes × Fate)} (oldest : OldestTaken handled) :
    repliesTo reply .taken (handled.map fun entry => (entry.1, entry.2.take)) =
      repliesTo reply .taken handled ++ repliesTo reply .queued handled := by
  induction handled with
  | nil => rfl
  | cons entry rest ih =>
    obtain ⟨packet, fate⟩ := entry
    obtain ⟨first, oldest⟩ := List.pairwise_cons.mp oldest
    have ih := ih oldest
    cases fate with
    | refused => exact ih
    | overflowed => exact ih
    | queued =>
      -- Nothing behind a queued reply has been taken.
      have none : repliesTo reply .taken rest = [] := repliesTo_eq_nil fun entry mem => first entry mem rfl
      have other : repliesTo reply .taken ((packet, .queued) :: rest) = [] :=
        (repliesTo_cons_other (by decide) packet rest).trans none
      rw [List.map_cons, Fate.take, repliesTo_cons_same, repliesTo_cons_same, ih, none, other]
      rfl
    | taken =>
      have other : repliesTo reply .queued ((packet, .taken) :: rest) = repliesTo reply .queued rest :=
        repliesTo_cons_other (by decide) packet rest
      rw [List.map_cons, Fate.take, repliesTo_cons_same, repliesTo_cons_same, ih, other, List.append_assoc]
      nofun

theorem OldestTaken.take (handled : List (Bytes × Fate)) :
    OldestTaken (handled.map fun entry => (entry.1, entry.2.take)) := by
  refine List.pairwise_map.mpr (List.pairwise_of_forall fun before after => ?_)
  obtain ⟨_, fate⟩ := before
  cases fate <;> nofun

theorem OldestTaken.append_fates {handled : List (Bytes × Fate)} (oldest : OldestTaken handled) (room : Nat)
    (packets : List Bytes) : OldestTaken (handled ++ fates reply room packets) := by
  have fresh := fates_ne_taken reply room packets
  refine List.pairwise_append.mpr ⟨oldest, ?_, fun _ _ after mem _ => fresh after mem⟩
  exact List.pairwise_of_forall_mem_list fun _ _ after mem _ => fresh after mem

end Replies

/-! ### What is seen and what the frames hold -/

variable {σ : Type} {l : Layout} {reply : Bytes → Except DropReason Bytes} {e : Engine σ Simulator}
  {s t : EngineState σ Simulator} {g : Ledger}

/-- Packets that wait are on the receive ring, replies that are queued on the transmit ring, and what has been taken and
not been given back is still in its frame. -/
structure Serving (reply : Bytes → Except DropReason Bytes) (l : Layout) (s : EngineState σ Simulator) (g : Ledger) :
    Prop where
  inOrder : g.handled.map (·.1) ++ g.waiting = g.delivered
  oldest : OldestTaken g.handled
  received : List.Forall₂ (Holds s.env.umem) s.env.rings.rx.pending g.waiting
  queued : List.Forall₂ (Holds s.env.umem) s.env.rings.tx.pending (repliesTo reply .queued g.handled)
  sent : g.sent.map (·.2) = repliesTo reply .taken g.handled
  completed : g.completed ≤ g.sent.length
  inFlight : s.env.world.inFlight = g.inFlight.map (·.1.addr)
  fits : ∀ entry ∈ g.inFlight, entry.1.FitsFrame l
  lasting : ∀ entry ∈ g.inFlight, Holds s.env.umem entry.1 entry.2

theorem Holds.frame_eq {env : Env Simulator} {d : Descriptor} {packet : Bytes} (holds : Holds env.umem d packet) :
    Simulator.frame d.addr d.len.toNat env = packet := by
  rw [Simulator.frame, show env.umem.read? d.addr d.len.toNat = some packet from holds, Option.getD_some]

theorem map_frame_eq {env : Env Simulator} {descs : List Descriptor} {packets : List Bytes}
    (holds : List.Forall₂ (Holds env.umem) descs packets) :
    descs.map (fun d => Simulator.frame d.addr d.len.toNat env) = packets := by
  rw [← List.forall₂_eq_eq_eq, List.forall₂_map_left_iff]
  exact holds.imp fun _ _ => Holds.frame_eq

theorem holds_frame {env : Env Simulator} {descs : List Descriptor} {packets : List Bytes}
    (holds : List.Forall₂ (Holds env.umem) descs packets) :
    ∀ d ∈ descs, Holds env.umem d (Simulator.frame d.addr d.len.toNat env) := by
  induction holds with
  | nil => nofun
  | cons here _ ih =>
    refine List.forall_mem_cons.mpr ⟨?_, ih⟩
    rwa [here.frame_eq]

/-- A packet is held where it has been delivered. -/
theorem holds_delivered {umem : Area} {addr : UInt64} {packet : Bytes} (small : packet.length ≤ l.frameSize.toNat)
    (inside : umem.Contains addr packet.length) :
    Holds (umem.write addr packet) ⟨addr, .ofNat packet.length, 0⟩ packet := by
  have read := inside.read?_write_self (Nat.le_refl _)
  rwa [List.take_length, ← Layout.toNat_ofNat_length small] at read

/-- The frame at the front of the fill ring is in no other place, so a packet that is delivered there does not change
what is held elsewhere. -/
theorem Orderly.holds_write_front {c : Custody} (orderly : Orderly l c s) {addr : UInt64} {rest : List UInt64}
    (front : s.env.rings.fill.pending = addr :: rest) {packet : Bytes} (small : packet.length ≤ l.frameSize.toNat)
    {d : Descriptor} {data : Bytes} (fits : d.FitsFrame l)
    (mem : d.addr ∈ s.env.rings.rx.pending.map (·.addr) ++ (s.env.rings.tx.pending.map (·.addr) ++ c.tx))
    (holds : Holds s.env.umem d data) : Holds (s.env.umem.write addr packet) d data := by
  have base := Layout.frameBase_of_mem (orderly.offered (List.mem_append_left _ (front ▸ List.mem_cons_self)))
  have within : addr.toNat + packet.length ≤ (l.frameBase addr).toNat + l.frameSize.toNat := by
    rw [base]
    exact Nat.add_le_add_left small _
  have fresh := orderly.nodup_shared
  rw [front, List.cons_append, List.map_cons, List.nodup_cons] at fresh
  refine holds.write_apart fits within ?_
  intro same
  apply fresh.1
  rw [same]
  exact List.mem_map_of_mem (List.mem_append_right _ mem)

namespace Serving

/-- A packet is delivered into a frame that nothing else is in. -/
theorem deliver (orderly : Orderly l (Simulator.custody s.env.world) s) (serving : Serving reply l s g)
    (packet : Bytes) : Serving reply l (e.act l s (.deliver packet)) (g.record reply e l s (.deliver packet)) := by
  have delivered := Simulator.deliver_eq l packet orderly.fill.lawful orderly.rx.lawful
  cases front : s.env.rings.fill.pending with
  | nil =>
    rw [front] at delivered
    rw [Engine.act, Ledger.record, delivered]
    exact serving
  | cons addr rest =>
    rw [front] at delivered
    dsimp only at delivered
    split at delivered
    next possible =>
      obtain ⟨room, small, inside⟩ := possible
      have waiting : (g.delivered ++ [packet]).drop g.handled.length = g.waiting ++ [packet] := by
        refine List.drop_append_of_le_length ?_
        rw [← serving.inOrder, List.length_append, List.length_map]
        exact Nat.le_add_right _ _
      rw [Engine.act, Ledger.record, delivered]
      refine { serving with inOrder := ?_, received := ?_, queued := ?_, lasting := ?_ }
      · rw [Ledger.waiting, waiting, ← List.append_assoc, serving.inOrder]
      · rw [Ledger.waiting, waiting]
        have pending : (s.env.rings.rx.push [⟨addr, .ofNat packet.length, 0⟩]).pending = _ :=
          orderly.rx.lawful.pending_push room
        simp only [Simulator.received, pending]
        refine List.rel_append ?_ (.cons (holds_delivered small inside) .nil)
        refine forall₂_imp_of_mem serving.received fun d mem _ => orderly.holds_write_front front small ?_ ?_
        · exact orderly.inside d (List.mem_append_left _ mem)
        · exact List.mem_append_left _ (List.mem_map_of_mem mem)
      · refine forall₂_imp_of_mem serving.queued fun d mem _ => orderly.holds_write_front front small ?_ ?_
        · exact orderly.inside d (List.mem_append_right _ mem)
        · exact List.mem_append_right _ (List.mem_append_left _ (List.mem_map_of_mem mem))
      · intro entry mem
        refine orderly.holds_write_front front small (serving.fits entry mem) ?_ (serving.lasting entry mem)
        rw [Simulator.custody, serving.inFlight]
        exact List.mem_append_right _ (List.mem_append_right _ (List.mem_map.mpr ⟨entry, mem, rfl⟩))
    next =>
      rw [Engine.act, Ledger.record, delivered]
      exact serving

/-- What was queued is in flight, as it was queued. -/
theorem transmit (orderly : Orderly l (Simulator.custody s.env.world) s) (serving : Serving reply l s g) :
    Serving reply l (e.act l s .transmit) (g.record reply e l s .transmit) := by
  have taken := Simulator.transmit_eq orderly.tx.lawful
  have frames := map_frame_eq serving.queued
  have inFlight : (g.record reply e l s .transmit).inFlight = g.inFlight ++ s.env.rings.tx.pending.map fun d =>
      (d, Simulator.frame d.addr d.len.toNat s.env) := by
    simp only [Ledger.inFlight, Ledger.record, taken]
    exact List.drop_append_of_le_length serving.completed
  have entry_cases : ∀ entry ∈ (g.record reply e l s .transmit).inFlight,
      entry ∈ g.inFlight ∨ ∃ d ∈ s.env.rings.tx.pending, (d, Simulator.frame d.addr d.len.toNat s.env) = entry := by
    intro entry mem
    rw [inFlight] at mem
    exact (List.mem_append.mp mem).imp id List.mem_map.mp
  refine {
    inOrder := ?_, oldest := .take g.handled, received := ?_, queued := ?_, sent := ?_, completed := ?_
    inFlight := ?_, fits := ?_, lasting := ?_ }
  · simpa [Ledger.record, Ledger.waiting, taken, Function.comp_def] using serving.inOrder
  · simpa [Engine.act, Ledger.record, Ledger.waiting, taken] using serving.received
  · rw [Ledger.record, repliesTo_queued_take, Engine.act, taken]
    simp only [Ring.pending_consume_all, List.Forall₂.nil]
  · simp only [Ledger.record, taken, List.map_append, List.map_map, serving.sent]
    rw [repliesTo_taken_take serving.oldest, ← frames]
    rfl
  · simp only [Ledger.record, List.length_append]
    exact Nat.le_add_right_of_le serving.completed
  · rw [inFlight, Engine.act, taken, List.map_append, List.map_map, serving.inFlight]
    rfl
  · intro entry mem
    rcases entry_cases entry mem with before | ⟨d, queued, rfl⟩
    · exact serving.fits entry before
    · exact orderly.inside d (List.mem_append_right _ queued)
  · intro entry mem
    rw [Engine.act, taken]
    rcases entry_cases entry mem with before | ⟨d, queued, rfl⟩
    · exact serving.lasting entry before
    · exact holds_frame serving.queued d queued

/-- What is given back is not in flight any more. -/
theorem complete (orderly : Orderly l (Simulator.custody s.env.world) s) (serving : Serving reply l s g) (most : Nat) :
    Serving reply l (e.act l s (.complete most)) (g.record reply e l s (.complete most)) := by
  have completed := Simulator.complete_eq most orderly.completion.lawful orderly.length_tx_lt
  have inFlight : (g.record reply e l s (.complete most)).inFlight =
      g.inFlight.drop (Simulator.completable most s.env) := by
    simp only [Ledger.inFlight, Ledger.record, completed, List.drop_drop]
  refine { serving with received := ?_, queued := ?_, completed := ?_, inFlight := ?_, fits := ?_, lasting := ?_ }
  · rw [Engine.act, completed]
    exact serving.received
  · rw [Engine.act, completed]
    exact serving.queued
  · have length := congrArg List.length serving.inFlight
    have := serving.completed
    simp only [Ledger.record, completed]
    rw [List.length_map, Ledger.inFlight, List.length_drop] at length
    rw [Simulator.completable]
    omega
  · rw [inFlight, Engine.act, completed, List.map_drop, serving.inFlight]
  · intro entry mem
    rw [inFlight] at mem
    exact serving.fits entry (List.mem_of_mem_drop mem)
  · intro entry mem
    rw [inFlight] at mem
    rw [Engine.act, completed]
    exact serving.lasting entry (List.mem_of_mem_drop mem)

/-- A batch queues the replies that have room, and leaves what is in flight alone. -/
theorem batch (responds : e.Responds reply) (orderly : Orderly l (Simulator.custody s.env.world) s)
    (serving : Serving reply l s g) :
    Serving reply l (e.act l s .batch) (g.record reply e l s .batch) := by
  obtain ⟨count, t, batch, answers⟩ := Engine.processBatch_responder responds orderly serving.received
  obtain ⟨later, pending, queued⟩ := answers.queued
  -- What is queued or in flight is in other frames than what is received.
  have away : ∀ addr ∈ s.env.rings.tx.pending.map (·.addr) ++ s.env.world.inFlight,
      l.frameBase addr ∉ (s.env.rings.rx.pending.map (·.addr)).map l.frameBase := by
    intro addr mem here
    have nodup := orderly.nodup_shared
    rw [List.map_append, List.map_append] at nodup
    obtain ⟨-, -, apart⟩ := List.nodup_append.mp (List.nodup_append.mp nodup).2.1
    exact apart _ here _ (List.mem_map_of_mem mem) rfl
  have waiting : (g.record reply e l s .batch).waiting = g.waiting.drop count := by
    simp only [Ledger.waiting, Ledger.record, batch, List.length_append, length_fates, ← List.drop_drop]
    rw [List.drop_eq_drop_iff, List.length_take]
    omega
  refine {
    inOrder := ?_, oldest := ?_, received := ?_, queued := ?_, sent := ?_, completed := ?_
    inFlight := ?_, fits := ?_, lasting := ?_ }
  · rw [waiting]
    simp only [Ledger.record, batch, List.map_append, map_fst_fates, List.append_assoc, List.take_append_drop]
    exact serving.inOrder
  · simp only [Ledger.record, batch]
    exact serving.oldest.append_fates _ _
  · rw [waiting, Engine.act, batch]
    exact answers.received
  · simp only [Engine.act, Ledger.record, batch, pending, repliesTo_append]
    refine List.rel_append (forall₂_imp_of_mem serving.queued fun d mem _ => answers.kept ?_ ?_) queued
    · exact orderly.inside d (List.mem_append_right _ mem)
    · exact away d.addr (List.mem_append_left _ (List.mem_map_of_mem mem))
  · simp only [Ledger.record, batch, repliesTo_append]
    rw [repliesTo_eq_nil (fates_ne_taken reply _ _), List.append_nil]
    exact serving.sent
  · simp only [Ledger.record, batch]
    exact serving.completed
  · simp only [Engine.act, Ledger.inFlight, Ledger.record, batch]
    exact answers.inFlight.trans serving.inFlight
  · intro entry mem
    simp only [Ledger.inFlight, Ledger.record, batch] at mem
    exact serving.fits entry mem
  · intro entry mem
    simp only [Ledger.inFlight, Ledger.record, batch] at mem
    simp only [Engine.act, batch]
    refine answers.kept (serving.fits entry mem) (away _ ?_) (serving.lasting entry mem)
    rw [serving.inFlight]
    exact List.mem_append_right _ (List.mem_map.mpr ⟨entry, mem, rfl⟩)

/-- There is nothing to serve at the start. -/
theorem start (e : Engine σ Simulator) (processorState : σ) {env : Env Simulator} (opened : Engine.Opened l env) :
    Serving reply l (e.start l processorState env) .empty := by
  obtain ⟨⟨⟨_, _, rx⟩, ⟨_, _, tx⟩, -, -⟩, -, idle⟩ := opened
  obtain ⟨-, rxEmpty, -⟩ := Ring.create_eq_ok rx
  obtain ⟨-, txEmpty, -⟩ := Ring.create_eq_ok tx
  have received : (e.start l processorState env).env.rings.rx.pending = [] := rxEmpty
  have queued : (e.start l processorState env).env.rings.tx.pending = [] := txEmpty
  exact {
    inOrder := rfl, oldest := .nil, received := received ▸ .nil, queued := queued ▸ .nil, sent := rfl
    completed := Nat.le_refl _, inFlight := idle, fits := nofun, lasting := nofun }

end Serving

namespace Engine

theorem Served.simulated (served : e.Served l reply s g) : e.Simulated l s := by
  induction served with
  | start processorState opened => exact .start processorState opened
  | act _ move ih => exact ih.act move

theorem Served.serving (responds : e.Responds reply) (served : e.Served l reply s g) : Serving reply l s g := by
  induction served with
  | start processorState opened => exact .start e processorState opened
  | act before move ih =>
    have orderly := before.simulated.orderly responds.drives
    cases move with
    | deliver packet => exact ih.deliver orderly packet
    | transmit => exact ih.transmit orderly
    | complete most => exact ih.complete orderly most
    | batch => exact ih.batch responds orderly

/-- What is sent are the replies. Take an engine that answers echo requests over IPv4 or over IPv6 and the simulated
kernel side, with any memory, rings and batch size, and any order of deliveries, batches, transmissions and completions.
The descriptors that have been taken for sending held, when they were taken, exactly the replies to those processed
packets that have one, found room, and have been taken, in order. Until its frame is given back a descriptor still holds
the same bytes. The replies that have not been taken are on the transmit ring, in order, and every packet that was
delivered has been processed or is on the receive ring, in order and as it was delivered. -/
theorem echo_service {needWakeup : Bool} (endpoint : e.endpoint = Simulator.endpoint needWakeup)
    (answers : e.processor = .icmp ∧ reply = EchoReply.ipv4 ∨ e.processor = .icmpv6 ∧ reply = EchoReply.ipv6)
    (served : e.Served l reply s g) :
    g.sent.map (·.2) = repliesTo reply .taken g.handled ∧
      (∀ entry ∈ g.inFlight, Simulator.frame entry.1.addr entry.1.len.toNat s.env = entry.2) ∧
      s.env.world.inFlight = g.inFlight.map (·.1.addr) ∧
      s.env.rings.tx.pending.map (fun d => Simulator.frame d.addr d.len.toNat s.env) =
        repliesTo reply .queued g.handled ∧
      g.handled.map (·.1) ++ s.env.rings.rx.pending.map (fun d => Simulator.frame d.addr d.len.toNat s.env) =
        g.delivered := by
  have responds : e.Responds reply := by
    rcases answers with ⟨processor, rfl⟩ | ⟨processor, rfl⟩
    · exact ⟨⟨_, endpoint⟩, ⟨_, processor⟩, EchoReply.length_ipv4⟩
    · exact ⟨⟨_, endpoint⟩, ⟨_, processor⟩, EchoReply.length_ipv6⟩
  have serving := served.serving responds
  refine ⟨serving.sent, ?_, serving.inFlight, map_frame_eq serving.queued, ?_⟩
  · intro entry mem
    exact (serving.lasting entry mem).frame_eq
  · rw [map_frame_eq serving.received]
    exact serving.inOrder

/-- Two packets are delivered and handled in one batch, a single byte and an echo request, and then everything queued is
taken: what is in flight is the reply to the request. -/
theorem echo_service_of_a_request :
    let l : Layout := ⟨2048, 2, by decide, by decide⟩
    let e : Engine Unit Simulator := ⟨.icmp, Simulator.endpoint false, 64, .wait, .ofMilliseconds 1000⟩
    let request : Bytes := [2, 0, 0, 0, 0, 1, 2, 0, 0, 0, 0, 2, 8, 0,
      0x45, 0, 0, 28, 0, 0, 0, 0, 64, 1, 0, 0, 10, 0, 0, 1, 10, 0, 0, 2, 8, 0, 0xf7, 0xfe, 0, 0, 0, 1]
    let answer : Bytes := [2, 0, 0, 0, 0, 2, 2, 0, 0, 0, 0, 1, 8, 0,
      0x45, 0, 0, 28, 0, 0, 0, 0, 64, 1, 0, 0, 10, 0, 0, 2, 10, 0, 0, 1, 0, 0, 0xff, 0xfe, 0, 0, 0, 1]
    let s₀ := e.start l () { Env.blank Simulator.idle with
      rings := ⟨.blank 2 0xffffffff, .blank 1 0, .blank 2 0xffffffff, .blank 1 7⟩, umem := .zeroed l }
    let g₀ := Ledger.empty
    let g₁ := g₀.record EchoReply.ipv4 e l s₀ (.deliver [1])
    let s₁ := e.act l s₀ (.deliver [1])
    let g₂ := g₁.record EchoReply.ipv4 e l s₁ (.deliver request)
    let s₂ := e.act l s₁ (.deliver request)
    let g₃ := g₂.record EchoReply.ipv4 e l s₂ .batch
    let s₃ := e.act l s₂ .batch
    let g₄ := g₃.record EchoReply.ipv4 e l s₃ .transmit
    let s₄ := e.act l s₃ .transmit
    g₄.handled = [([1], .refused), (request, .taken)] ∧ g₄.sent.map (·.2) = [answer] ∧
      (∀ entry ∈ g₄.inFlight, Simulator.frame entry.1.addr entry.1.len.toNat s₄.env = entry.2) ∧
      s₄.env.world.inFlight = g₄.inFlight.map (·.1.addr) := by
  intro l e request answer s₀ g₀ g₁ s₁ g₂ s₂ g₃ s₃ g₄ s₄
  have start : e.Served l EchoReply.ipv4 s₀ g₀ :=
    .start () ⟨⟨⟨2, 0xffffffff, rfl⟩, ⟨1, 0, rfl⟩, ⟨2, 0xffffffff, rfl⟩, ⟨1, 7, rfl⟩⟩, Area.size_zeroed l, rfl⟩
  have served : e.Served l EchoReply.ipv4 s₄ g₄ :=
    (((start.act (.deliver [1])).act (.deliver request)).act .batch).act .transmit
  have handled : g₄.handled = [([1], Fate.refused), (request, Fate.taken)] := by decide +kernel
  obtain ⟨sent, lasting, inFlight, -, -⟩ := echo_service rfl (.inl ⟨rfl, rfl⟩) served
  refine ⟨handled, sent.trans ?_, lasting, inFlight⟩
  rw [handled]
  decide +kernel

end Engine

end XdpEcho
