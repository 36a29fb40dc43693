import XdpEcho.Proofs.Egress.Outcomes
import XdpEcho.Proofs.Engine.Ownership

/-!
# One packet after the other

A batch runs the processor over all of its packets before it puts the first of them on the transmit ring. When the
processor goes by the packet, its own state and its link, that is the same as handling one packet after the other, each
as if it were alone. So nothing that is seen from outside depends on which packets are handled together.

* `Reaction`, `Processor.Secluded` — what such a processor does with a packet.
* `Visible`, `Visible.pass` — what is seen from outside, and what one packet does to it.
* `Visible.foldl_pass` — the packets of a batch one after the other, as verdicts, triage and sums.
* `Engine.visible_process` — a batch does what its packets do one after the other.
* `Processor.secluded_responder`, `Processor.secluded_egress` — the processors there are.
-/

namespace XdpEcho

variable {σ ω κ : Type}

/-! ### Sums of counters -/

namespace Stats

instance : Add Stats where
  add a b := ⟨a.rxPackets + b.rxPackets, a.rxBytes + b.rxBytes, a.txPackets + b.txPackets, a.txBytes + b.txBytes,
    a.dropped + b.dropped⟩

theorem add_def (a b : Stats) : a + b = ⟨a.rxPackets + b.rxPackets, a.rxBytes + b.rxBytes, a.txPackets + b.txPackets,
    a.txBytes + b.txBytes, a.dropped + b.dropped⟩ :=
  rfl

instance : Std.Associative (α := Stats) (· + ·) where
  assoc a b c := by simp only [add_def, UInt64.add_assoc]

instance : Std.Commutative (α := Stats) (· + ·) where
  comm a b := by simp only [add_def, UInt64.add_comm]

@[simp] theorem add_zero (a : Stats) : a + zero = a := by
  simp only [add_def, zero, UInt64.add_zero]

end Stats

theorem totalLength_cons (d : Descriptor) (rest : List Descriptor) :
    totalLength (d :: rest) = d.len.toUInt64 + totalLength rest := by
  have from_start (start : UInt64) (descs : List Descriptor) :
      descs.foldl (fun sum d => sum + d.len.toUInt64) start = start + totalLength descs := by
    induction descs generalizing start with
    | nil => exact (UInt64.add_zero _).symm
    | cons d rest ih =>
      rw [totalLength, List.foldl_cons, List.foldl_cons, ih, ih (0 + d.len.toUInt64), UInt64.zero_add, UInt64.add_assoc]
  rw [totalLength, List.foldl_cons, from_start, UInt64.zero_add]

/-- What handling packets adds to the counters, given which of them were received, sent and given back. -/
def tally (received sent returned : List Descriptor) : Stats where
  rxPackets := .ofNat received.length
  rxBytes := totalLength received
  txPackets := .ofNat sent.length
  txBytes := totalLength sent
  dropped := .ofNat returned.length

/-- The counters of a batch are counted with 32 bits, which suffice for what is on a ring. -/
theorem record_eq_tally (stats : Stats) {received sent : List Descriptor} (returned : List Descriptor)
    (few : received.length < 2 ^ 32) (fewer : sent.length ≤ received.length) :
    ((stats.recordRx (UInt32.ofNat received.length).toUInt64 (totalLength received)).recordTx
      (UInt32.ofNat sent.length).toUInt64 (totalLength sent)).recordDropped (.ofNat returned.length) =
        stats + tally received sent returned := by
  have wide {n : Nat} (lt : n < 2 ^ 32) : (UInt32.ofNat n).toUInt64 = .ofNat n := by
    rw [← UInt64.toNat_inj, UInt32.toNat_toUInt64, UInt32.toNat_ofNat', UInt64.toNat_ofNat']
    omega
  rw [wide few, wide (by omega)]
  rfl

theorem tally_sent (d : Descriptor) (received sent returned : List Descriptor) :
    tally (d :: received) (d :: sent) returned = tally [d] [d] [] + tally received sent returned := by
  simp only [tally, Stats.add_def, totalLength_cons, List.length_cons, List.length_nil, Nat.add_comm _ 1,
    UInt64.ofNat_add]
  simp [totalLength]

theorem tally_returned (d : Descriptor) (received sent returned : List Descriptor) :
    tally (d :: received) sent (d :: returned) = tally [d] [] [d] + tally received sent returned := by
  simp only [tally, Stats.add_def, totalLength_cons, List.length_cons, List.length_nil, Nat.add_comm _ 1,
    UInt64.ofNat_add]
  simp [totalLength]

/-! ### One packet -/

/-- What a processor says about a packet, and what it does to whatever is its own. -/
structure Reaction (σ κ : Type) where
  verdict : Verdict
  /-- The packet as it is afterwards. -/
  packet : Bytes
  state : σ
  link : κ
  /-- What it adds to the counters. -/
  counted : Stats

/-- A processor goes by the packet, its own state and its link. It changes nothing else but the counters, to which it
adds, and the log. -/
structure Processor.Secluded (p : Processor σ ω) (held : ω → Custody) (link : ω → κ)
    (react : Bytes → σ → κ → Reaction σ κ) : Prop where
  keepsPort : p.Keeps (Env.port held)
  keepsUmem : p.Keeps (·.umem)
  reacts : ∀ (packet : Bytes) (state : σ) (env : Env ω), ∃ env',
    p.process packet state env =
        ((react packet state (link env.world)).verdict, (react packet state (link env.world)).packet,
          (react packet state (link env.world)).state, env') ∧
      link env'.world = (react packet state (link env.world)).link ∧
      env'.stats = env.stats + (react packet state (link env.world)).counted

/-- What a processor works on. -/
structure Scope (σ κ : Type) where
  processorState : σ
  link : κ
  umem : Area

/-- What is seen of an engine from outside: what the processor works on, the counters, and the transmit ring. -/
structure Visible (σ κ : Type) where
  scope : Scope σ κ
  stats : Stats
  tx : Ring Descriptor

section Pass

variable (react : Bytes → σ → κ → Reaction σ κ)

/-- Runs a processor over one packet. -/
def Scope.judge (d : Descriptor) (w : Scope σ κ) : Verdict × Stats × Scope σ κ :=
  match w.umem.read? d.addr d.len.toNat with
  | none => (.drop, .zero, w)
  | some packet =>
    let r := react packet w.processorState w.link
    (r.verdict, r.counted, ⟨r.state, r.link, w.umem.write d.addr (r.packet.take packet.length)⟩)

/-- Runs a processor over packets, in order. -/
def Scope.judgeAll : List Descriptor → Scope σ κ → List Verdict × Stats × Scope σ κ
  | [], w => ([], .zero, w)
  | d :: rest, w =>
    let (verdict, counted, w) := w.judge react d
    let (verdicts, more, w) := judgeAll rest w
    (verdict :: verdicts, counted + more, w)

/-- What one packet does: it is judged, and then sent when it is to be forwarded and a slot is free. -/
def Visible.pass (v : Visible σ κ) (d : Descriptor) : Visible σ κ :=
  let (verdict, counted, scope) := v.scope.judge react d
  if verdict = .forward ∧ 0 < v.tx.freeSlots 0 then
    ⟨scope, v.stats + counted + tally [d] [d] [], v.tx.push [d.outgoing]⟩
  else ⟨scope, v.stats + counted + tally [d] [] [d], v.tx⟩

end Pass

/-! ### Many packets -/

namespace Ring

variable {α : Type} {r : Ring α} {entries : List α}

/-- Entries take the slots that they need. -/
theorem Lawful.freeSlots_push (lawful : r.Lawful) (fits : entries.length ≤ r.freeSlots 0) :
    (r.push entries).freeSlots 0 = r.freeSlots 0 - entries.length := by
  rw [freeSlots, lawful.toNat_pendingCount_push (lawful.room_of_le_freeSlots fits), slots_size_push, freeSlots]
  omega

end Ring

variable {react : Bytes → σ → κ → Reaction σ κ}

/-- Handling packets one after the other is running the processor over all of them, then sending the first forwarded ones
that find room, and giving the others back. -/
theorem Visible.foldl_pass {v : Visible σ κ} (lawful : v.tx.Lawful) {descs sent returned : List Descriptor}
    {verdicts : List Verdict} {counted : Stats} {scope : Scope σ κ}
    (judged : v.scope.judgeAll react descs = (verdicts, counted, scope))
    (split : triage (v.tx.freeSlots 0) (descs.zip verdicts) = (sent, returned)) :
    descs.foldl (pass react) v =
      ⟨scope, v.stats + counted + tally descs sent returned, v.tx.push (sent.map Descriptor.outgoing)⟩ := by
  induction descs generalizing v verdicts counted sent returned with
  | nil =>
    cases judged
    rw [List.zip_nil_left, triage_nil] at split
    cases split
    have none : tally [] [] [] = .zero := rfl
    rw [List.foldl_nil, List.map_nil, Ring.push_nil, none, Stats.add_zero, Stats.add_zero]
  | cons d rest ih =>
    obtain ⟨verdict, here, w, first⟩ : ∃ verdict here w, v.scope.judge react d = (verdict, here, w) := ⟨_, _, _, rfl⟩
    obtain ⟨verdicts', later, w', others⟩ : ∃ verdicts' later w', w.judgeAll react rest = (verdicts', later, w') :=
      ⟨_, _, _, rfl⟩
    simp only [Scope.judgeAll, first, others] at judged
    cases judged
    -- A packet that is not sent changes neither the ring nor what is sent behind it.
    have given (kept : ¬ (verdict = .forward ∧ 0 < v.tx.freeSlots 0)) {sent returned : List Descriptor}
        (behind : triage (v.tx.freeSlots 0) (rest.zip verdicts') = (sent, returned)) :
        (d :: rest).foldl (pass react) v = ⟨scope, v.stats + (here + later) + tally (d :: rest) sent (d :: returned),
          v.tx.push (sent.map Descriptor.outgoing)⟩ := by
      have step : v.pass react d = ⟨w, v.stats + here + tally [d] [] [d], v.tx⟩ := by
        rw [pass, first]
        exact if_neg kept
      have sum : v.stats + here + tally [d] [] [d] + later + tally rest sent returned =
          v.stats + (here + later) + tally (d :: rest) sent (d :: returned) := by
        rw [tally_returned d rest]
        ac_rfl
      rw [List.foldl_cons, step, ih (v := ⟨w, _, v.tx⟩) lawful others behind, sum]
    rw [List.zip_cons_cons] at split
    cases verdict with
    | drop =>
      rw [triage_drop] at split
      cases split
      exact given nofun rfl
    | forward =>
      cases room : v.tx.freeSlots 0 with
      | zero =>
        rw [room, triage_forward_full] at split
        cases split
        exact given (fun both => by omega) (by rw [room])
      | succ slots =>
        rw [room, triage_forward] at split
        cases split
        obtain ⟨sent, returned, behind⟩ : ∃ sent returned, triage slots (rest.zip verdicts') = (sent, returned) :=
          ⟨_, _, rfl⟩
        have fits : [d.outgoing].length ≤ v.tx.freeSlots 0 := by
          rw [room]
          exact Nat.le_add_left 1 slots
        have left : (v.tx.push [d.outgoing]).freeSlots 0 = slots := by
          rw [lawful.freeSlots_push fits, room]
          rfl
        have step : v.pass react d = ⟨w, v.stats + here + tally [d] [d] [], v.tx.push [d.outgoing]⟩ := by
          rw [pass, first]
          exact if_pos ⟨rfl, by omega⟩
        have sum : v.stats + here + tally [d] [d] [] + later + tally rest sent returned =
            v.stats + (here + later) + tally (d :: rest) (d :: sent) returned := by
          rw [tally_sent d rest]
          ac_rfl
        have pushed := lawful.push (lawful.room_of_le_freeSlots fits)
        rw [List.foldl_cons, step, ih pushed others (left.symm ▸ behind), sum, Ring.push_push, behind]
        rfl

/-! ### Processors -/

namespace Processor

variable {held : ω → Custody} {link : ω → κ}

/-- What a processor that answers in place does with a packet. -/
def reply (answer : Bytes → Except DropReason Bytes) (packet : Bytes) (state : σ) (link : κ) : Reaction σ κ :=
  match answer packet with
  | .ok reply => ⟨.forward, reply, state, link, .zero⟩
  | .error _ => ⟨.drop, packet, state, link, .zero⟩

theorem secluded_responder (name : String) (answer : Bytes → Except DropReason Bytes) (held : ω → Custody)
    (link : ω → κ) : (responder name answer : Processor σ ω).Secluded held link (reply answer) where
  keepsPort := keeps_responder name answer fun _ _ => rfl
  keepsUmem := keeps_responder name answer fun _ _ => rfl
  reacts packet state env := by
    simp only [responder, respond, reply]
    cases answer packet with
    | ok reply => exact ⟨env, rfl, rfl, (Stats.add_zero _).symm⟩
    | error reason => exact ⟨env.emit (.packetDropped reason), rfl, rfl, (Stats.add_zero _).symm⟩

/-- Sending goes by the frame and the link, and it changes the link only. -/
def SendsBy (send : Bytes → Env ω → Except SystemError UInt64 × Env ω) (held : ω → Custody) (link : ω → κ)
    (transfer : Bytes → κ → Except SystemError UInt64 × κ) : Prop :=
  ∀ (frame : Bytes) (env : Env ω), ∃ world,
    send frame env = ((transfer frame (link env.world)).1, { env with world }) ∧
      link world = (transfer frame (link env.world)).2 ∧ held world = held env.world

/-- What the processor that answers out of a link does with a packet. -/
def replyOut (transfer : Bytes → κ → Except SystemError UInt64 × κ) (packet : Bytes) (failures : UInt64) (link : κ) :
    Reaction UInt64 κ :=
  match EchoReply.ipv4 packet with
  | .error _ => ⟨.drop, packet, failures, link, .zero⟩
  | .ok reply =>
    match transfer reply link with
    | (.ok sent, link) => ⟨.drop, reply, failures, link, ⟨0, 0, 1, sent, 0⟩⟩
    | (.error _, link) => ⟨.drop, reply, failures + 1, link, .zero⟩

theorem exists_egress {send : Bytes → Env ω → Except SystemError UInt64 × Env ω}
    {transfer : Bytes → κ → Except SystemError UInt64 × κ} (sends : SendsBy send held link transfer) (packet : Bytes)
    (failures : UInt64) (env : Env ω) :
    ∃ env', (egress send).process packet failures env =
        ((replyOut transfer packet failures (link env.world)).verdict,
          (replyOut transfer packet failures (link env.world)).packet,
          (replyOut transfer packet failures (link env.world)).state, env') ∧
      link env'.world = (replyOut transfer packet failures (link env.world)).link ∧
      env'.stats = env.stats + (replyOut transfer packet failures (link env.world)).counted ∧
      env'.port held = env.port held ∧ env'.umem = env.umem := by
  rw [replyOut]
  cases answered : EchoReply.ipv4 packet with
  | error reason =>
    refine ⟨env.emit (.packetDropped reason), ?_, rfl, (Stats.add_zero _).symm, rfl, rfl⟩
    rw [egress_of_error answered]
  | ok reply =>
    obtain ⟨world, called, link', custody⟩ := sends reply env
    obtain ⟨result, after, transferred⟩ : ∃ result after, transfer reply (link env.world) = (result, after) :=
      ⟨_, _, rfl⟩
    rw [transferred] at called link'
    have port : Env.port held { env with world } = env.port held := Prod.ext rfl custody
    simp only [transferred]
    cases result with
    | ok bytes =>
      refine ⟨_, egress_of_sent answered called failures, link', ?_, port, rfl⟩
      simp only [Stats.recordTx, Stats.add_def, UInt64.add_zero]
    | error error =>
      exact ⟨_, egress_of_refused answered called failures, link', (Stats.add_zero _).symm, port, rfl⟩

theorem secluded_egress {send : Bytes → Env ω → Except SystemError UInt64 × Env ω}
    {transfer : Bytes → κ → Except SystemError UInt64 × κ} (sends : SendsBy send held link transfer) :
    (egress send).Secluded held link (replyOut transfer) where
  keepsPort packet failures env := by
    obtain ⟨env', processed, -, -, port, -⟩ := exists_egress sends packet failures env
    rw [processed]
    exact port
  keepsUmem packet failures env := by
    obtain ⟨env', processed, -, -, -, umem⟩ := exists_egress sends packet failures env
    rw [processed]
    exact umem
  reacts packet failures env := by
    obtain ⟨env', processed, link', stats, -, -⟩ := exists_egress sends packet failures env
    exact ⟨env', processed, link', stats⟩

end Processor

/-! ### The engine -/

/-- What the processor of an engine works on. -/
def EngineState.scope (link : ω → κ) (s : EngineState σ ω) : Scope σ κ :=
  ⟨s.processorState, link s.env.world, s.env.umem⟩

/-- What is seen of an engine from outside. -/
def EngineState.visible (link : ω → κ) (s : EngineState σ ω) : Visible σ κ :=
  ⟨s.scope link, s.env.stats, s.env.rings.tx⟩

namespace Engine

variable {e : Engine σ ω} {s : EngineState σ ω} {held : ω → Custody} {link : ω → κ}

theorem judge_secluded (secluded : e.processor.Secluded held link react) (d : Descriptor) (s : EngineState σ ω)
    {verdict : Verdict} {counted : Stats} {scope : Scope σ κ}
    (judged : (s.scope link).judge react d = (verdict, counted, scope)) :
    ∃ env, e.judge d s = (verdict, { s with processorState := scope.processorState, env }) ∧
      env.umem = scope.umem ∧ link env.world = scope.link ∧ env.stats = s.env.stats + counted ∧
      env.port held = s.env.port held := by
  rw [Scope.judge, EngineState.scope] at judged
  rw [judge]
  cases found : s.env.umem.read? d.addr d.len.toNat with
  | none =>
    simp only [found] at judged
    cases judged
    exact ⟨_, rfl, rfl, rfl, (Stats.add_zero _).symm, rfl⟩
  | some packet =>
    simp only [found] at judged
    cases judged
    obtain ⟨env, reacted, link', stats⟩ := secluded.reacts packet s.processorState s.env
    have port := secluded.keepsPort packet s.processorState s.env
    have umem := secluded.keepsUmem packet s.processorState s.env
    rw [reacted] at port umem
    simp only [reacted]
    refine ⟨_, rfl, ?_, link', stats, port⟩
    exact congrArg (Area.write · _ _) umem

/-- Running the processor over a batch is what it is for the processor alone. -/
theorem judgeAll_secluded (secluded : e.processor.Secluded held link react) {descs : List Descriptor}
    {verdicts : List Verdict} {counted : Stats} {scope : Scope σ κ}
    (judged : (s.scope link).judgeAll react descs = (verdicts, counted, scope)) :
    ∃ env, e.judgeAll descs s = (verdicts, { s with processorState := scope.processorState, env }) ∧
      verdicts.length = descs.length ∧ env.umem = scope.umem ∧ link env.world = scope.link ∧
      env.stats = s.env.stats + counted ∧ env.port held = s.env.port held := by
  induction descs generalizing s verdicts counted with
  | nil =>
    cases judged
    exact ⟨s.env, rfl, rfl, rfl, rfl, (Stats.add_zero _).symm, rfl⟩
  | cons d rest ih =>
    obtain ⟨verdict, here, w, first⟩ : ∃ verdict here w, (s.scope link).judge react d = (verdict, here, w) :=
      ⟨_, _, _, rfl⟩
    obtain ⟨verdicts', later, w', others⟩ : ∃ verdicts' later w', w.judgeAll react rest = (verdicts', later, w') :=
      ⟨_, _, _, rfl⟩
    simp only [Scope.judgeAll, first, others] at judged
    cases judged
    obtain ⟨env, judged, umem, link', stats, port⟩ := judge_secluded secluded d s first
    have scope' : EngineState.scope link { s with processorState := w.processorState, env } = w := by
      rw [EngineState.scope, umem, link']
    obtain ⟨env', judged', length, umem', link'', stats', port'⟩ :=
      ih (s := { s with processorState := w.processorState, env }) (scope'.symm ▸ others)
    refine ⟨env', ?_, congrArg (· + 1) length, umem', link'', ?_, port'.trans port⟩
    · simp only [judgeAll, judged, judged']
    · rw [stats']
      dsimp only
      rw [stats]
      ac_rfl

/-- A batch does what its packets do one after the other, and takes them off the receive ring. -/
theorem visible_process (secluded : e.processor.Secluded held link react) (rx : s.rx.Tracks s.env.rings.rx)
    (tx : s.tx.Tracks s.env.rings.tx 0) {descs : List Descriptor}
    (known : descs.length ≤ (s.rx.limit - s.rx.next).toNat) :
    (e.process descs s).visible link = descs.foldl (Visible.pass react) (s.visible link) ∧
      (e.process descs s).env.rings.rx.pending = s.env.rings.rx.pending.drop descs.length ∧
      held (e.process descs s).env.world = held s.env.world := by
  obtain ⟨verdicts, counted, scope, judged⟩ : ∃ verdicts counted scope,
    (s.scope link).judgeAll react descs = (verdicts, counted, scope) := ⟨_, _, _, rfl⟩
  obtain ⟨env, judgedAll, length, umem, link', stats, port⟩ := judgeAll_secluded secluded judged
  obtain ⟨rings, custody⟩ := Prod.mk.inj port
  obtain ⟨sent, returned, split⟩ : ∃ sent returned,
    triage (s.env.rings.tx.freeSlots 0) (descs.zip verdicts) = (sent, returned) := ⟨_, _, rfl⟩
  have few : descs.length < 2 ^ 32 := Nat.lt_of_le_of_lt known (UInt32.toNat_lt _)
  have fewer : sent.length ≤ descs.length := by
    have total := (perm_of_triage length split).length_eq
    rw [List.length_append] at total
    omega
  rw [← rings] at rx tx split
  obtain ⟨rx', tx', settled, -, -, left, -⟩ :=
    settle_eq (s := { s with processorState := scope.processorState, env }) rx tx known length split
  rw [process, judgedAll]
  dsimp only
  rw [settled]
  refine ⟨?_, ?_, custody⟩
  · rw [rings] at tx split
    rw [Visible.foldl_pass (v := s.visible link) tx.lawful judged split]
    simp only [EngineState.visible, EngineState.scope, record_eq_tally _ returned few fewer, umem, link', stats, rings]
  · rw [← rings]
    exact left

end Engine

end XdpEcho
