import XdpEcho.Proofs.Engine.Outstanding
import XdpEcho.Proofs.Engine.Packetwise

/-!
# The batch size does not matter

While the other side is idle an engine works off what has been received, batch by batch, until it finds nothing more. How
many packets a batch may hold decides how often frames are offered, sent and collected on the way, and which packets are
handled together, and nothing of that is seen in the end.

* `Endpoint.Quiet` — the other side is idle, also when it is told of the transmit ring.
* `Engine.Empties` — batches until nothing more is received.
* `Engine.Advances` — what a batch, and a run of batches, does: one packet after the other is handled.
* `Engine.Agree`, `Engine.batch_size_immaterial` — two batch sizes end in states between which nothing can tell but the
  fill ring and the order of the free stack.
-/

namespace XdpEcho

variable {σ ω κ : Type} {held : ω → Custody} {link : ω → κ} {react : Bytes → σ → κ → Reaction σ κ}

/-- Telling the other side of the transmit ring succeeds, and changes neither the shared memory, nor what the other side
holds, nor the link of the processor. -/
def Endpoint.Quiet (p : Endpoint ω) (held : ω → Custody) (link : ω → κ) : Prop :=
  ∀ env : Env ω, ∃ world, p.kickTx env = (.ok (), { env with world }) ∧ held world = held env.world ∧
    link world = link env.world

namespace Engine

variable {e : Engine σ ω} {l : Layout} {s t u : EngineState σ ω}

/-! ### One batch -/

theorem confined_of_quiet (secluded : e.processor.Secluded held link react) (quiet : e.endpoint.Quiet held link) :
    e.Confined l held where
  keepsRings packet state env := congrArg Prod.fst (secluded.keepsPort packet state env)
  keepsCustody packet state env := congrArg Prod.snd (secluded.keepsPort packet state env)
  kickTx env := by
    obtain ⟨world, called, custody, -⟩ := quiet env
    have same : Env.port held { env with world } = env.port held := Prod.ext rfl custody
    rw [called, same]

/-- The engine has gone from one state to another by handling the given packets, the oldest of those received. -/
structure Advances (held : ω → Custody) (link : ω → κ) (react : Bytes → σ → κ → Reaction σ κ)
    (s t : EngineState σ ω) (descs : List Descriptor) : Prop where
  received : descs ++ t.env.rings.rx.pending = s.env.rings.rx.pending
  visible : t.visible link = descs.foldl (Visible.pass react) (s.visible link)
  custody : held t.env.world = held s.env.world

theorem Advances.trans {first later : List Descriptor} (before : Advances held link react s t first)
    (after : Advances held link react t u later) : Advances held link react s u (first ++ later) where
  received := by rw [List.append_assoc, after.received, before.received]
  visible := by rw [List.foldl_append, ← before.visible, after.visible]
  custody := after.custody.trans before.custody

theorem work_advances (secluded : e.processor.Secluded held link react) {c : Custody} (orderly : Orderly l c s) :
    Advances held link react s (e.work s).2 (e.work s).1 ∧
      (e.batchCount ≠ 0 → (e.work s).1 = [] → s.env.rings.rx.pending = []) := by
  obtain ⟨descs, rx, drained, tracks, ⟨later, oldest⟩, known, -, some⟩ := e.drain_eq orderly.rx
  simp only [work, drained]
  refine ⟨?_, some⟩
  split
  next none =>
    obtain rfl := List.isEmpty_iff.mp none
    exact ⟨rfl, rfl, rfl⟩
  next =>
    have supplied : Orderly l c ({ s with rx } : EngineState σ ω).replenish :=
      Orderly.replenish { orderly with rx := tracks }
    obtain ⟨visible, left, custody⟩ := visible_process secluded supplied.rx supplied.tx known
    refine ⟨?_, visible, custody⟩
    have pending : ({ s with rx } : EngineState σ ω).replenish.env.rings.rx.pending = descs ++ later := oldest.symm
    rw [left, pending, List.drop_left, oldest]

/-- Reclaiming succeeds, and nothing of it is seen from outside. -/
theorem reclaim_quiet (quiet : e.endpoint.Quiet held link) (s : EngineState σ ω) :
    ∃ t, e.reclaim s = (.ok (), t) ∧ Advances held link react s t [] := by
  rw [reclaim]
  split
  next => exact ⟨s, rfl, rfl, rfl, rfl⟩
  next =>
    split
    next =>
      obtain ⟨world, called, custody, link'⟩ := quiet s.env
      rw [called]
      refine ⟨_, rfl, rfl, ?_, custody⟩
      have scope : EngineState.scope link (collect { s with env := { s.env with world } }) = s.scope link :=
        congrArg (Scope.mk s.processorState · s.env.umem) link'
      exact congrArg (Visible.mk · s.env.stats s.env.rings.tx) scope
    next => exact ⟨_, rfl, rfl, rfl, rfl⟩

/-- A batch handles the oldest packets, at least one when there is any, and leaves nothing on the completion ring. -/
theorem processBatch_advances (secluded : e.processor.Secluded held link react) (quiet : e.endpoint.Quiet held link)
    (orderly : Orderly l (held s.env.world) s) :
    ∃ descs t, e.processBatch s = (.ok descs.length, t) ∧ Advances held link react s t descs ∧
      Orderly l (held t.env.world) t ∧ t.env.rings.completion.pending = [] ∧
      (e.batchCount ≠ 0 → descs = [] → s.env.rings.rx.pending = []) := by
  have confined : e.Confined l held := confined_of_quiet secluded quiet
  obtain ⟨advances, some⟩ := work_advances secluded orderly
  obtain ⟨t, reclaimed, rest⟩ : ∃ t, e.reclaim (e.work s).2 = (.ok (), t) ∧
    Advances held link react (e.work s).2 t [] := reclaim_quiet quiet (e.work s).2
  obtain ⟨-, empty, -⟩ := reclaim_collects confined (work_orderly confined orderly) reclaimed
  have batch : e.processBatch s = (.ok (e.work s).1.length, t) := by rw [processBatch_eq, reclaimed]
  have after := processBatch_orderly confined orderly
  rw [batch] at after
  refine ⟨(e.work s).1, t, batch, ?_, after, empty rfl, some⟩
  have both := advances.trans rest
  rwa [List.append_nil] at both

/-! ### Until nothing more is received -/

/-- Batches are handled until one of them finds nothing received. -/
inductive Empties (e : Engine σ ω) : EngineState σ ω → EngineState σ ω → Prop
  | last {s t : EngineState σ ω} (batch : e.processBatch s = (.ok 0, t)) : Empties e s t
  | more {s t u : EngineState σ ω} {count : Nat} (batch : e.processBatch s = (.ok (count + 1), t))
      (rest : Empties e t u) : Empties e s u

theorem Empties.unique (empties : e.Empties s t) (others : e.Empties s u) : t = u := by
  induction empties with
  | last batch =>
    cases others with
    | last batch' =>
      rw [batch] at batch'
      cases batch'
      rfl
    | more batch' _ =>
      rw [batch] at batch'
      cases batch'
  | more batch _ ih =>
    cases others with
    | last batch' =>
      rw [batch] at batch'
      cases batch'
    | more batch' rest' =>
      rw [batch] at batch'
      cases batch'
      exact ih rest'

/-- As long as a batch holds a packet, batch after batch handles everything that was received. -/
theorem exists_empties (secluded : e.processor.Secluded held link react) (quiet : e.endpoint.Quiet held link)
    (some : e.batchCount ≠ 0) (orderly : Orderly l (held s.env.world) s) :
    ∃ t, e.Empties s t ∧ Advances held link react s t s.env.rings.rx.pending ∧ Orderly l (held t.env.world) t ∧
      t.env.rings.rx.pending = [] ∧ t.env.rings.completion.pending = [] := by
  obtain ⟨n, waiting⟩ : ∃ n, s.env.rings.rx.pending.length = n := ⟨_, rfl⟩
  induction n using Nat.strongRecOn generalizing s with
  | ind n ih =>
    obtain ⟨descs, t, batch, advances, after, collected, nothing⟩ := processBatch_advances secluded quiet orderly
    cases descs with
    | nil =>
      have empty := nothing some rfl
      have left := advances.received
      rw [empty] at left ⊢
      exact ⟨t, .last batch, advances, after, left, collected⟩
    | cons d rest =>
      have fewer := congrArg List.length advances.received
      rw [List.length_append, List.length_cons] at fewer
      obtain ⟨u, empties, behind, orderly', received, collected'⟩ := ih _ (by omega) after rfl
      refine ⟨u, .more batch empties, ?_, orderly', received, collected'⟩
      rw [← advances.received]
      exact advances.trans behind

/-! ### Any two batch sizes -/

/-- Nothing tells two states apart but how the frames at hand are split between the fill ring and the free stack, and in
which order they are there. -/
structure Agree (link : ω → κ) (s t : EngineState σ ω) : Prop where
  tx : s.env.rings.tx = t.env.rings.tx
  umem : s.env.umem = t.env.umem
  stats : s.env.stats = t.env.stats
  processorState : s.processorState = t.processorState
  link : link s.env.world = link t.env.world
  outstandingTx : s.outstandingTx = t.outstandingTx
  frames : (s.pool.stack ++ s.env.rings.fill.pending).Perm (t.pool.stack ++ t.env.rings.fill.pending)

theorem agree_of_advances {descs : List Descriptor} {s₁ s₂ : EngineState σ ω} (first : Advances held link react s s₁ descs)
    (second : Advances held link react s s₂ descs) (orderly₁ : Orderly l (held s₁.env.world) s₁)
    (orderly₂ : Orderly l (held s₂.env.world) s₂)
    (completion : s₁.env.rings.completion.pending = s₂.env.rings.completion.pending) : Agree link s₁ s₂ := by
  obtain ⟨scope, stats, tx⟩ := Visible.mk.inj (first.visible.trans second.visible.symm)
  obtain ⟨processorState, link', umem⟩ := Scope.mk.inj scope
  have rx := List.append_cancel_left (first.received.trans second.received.symm)
  have custody := first.custody.trans second.custody.symm
  rw [custody] at orderly₁
  refine ⟨tx, umem, stats, processorState, link', ?_, ?_⟩
  · rw [← UInt32.toNat_inj, orderly₁.outstanding, orderly₂.outstanding, tx, completion]
  · exact orderly₁.perm_at_hand orderly₂ rx (congrArg Ring.pending tx) completion

/-- The batch size does not matter. Take any state that an engine gets to, and any two batch sizes. While the other side
is idle, batch after batch until nothing more is received leads with either size to one state. In both the receive ring
and the completion ring are empty, and the two agree on the transmit ring, also where it was too short for all replies,
on the bytes of the frames, the counters, the state and the link of the processor, the count of outstanding frames, and
the frames that are on the fill ring or the free stack.

That holds of processors that go by the packet, their own state and their link, as the ones that answer in place do, and
the one that answers out of a link, when sending goes by the frame and the link. Beside any link the simulated kernel
side is idle when it is told of the transmit ring. -/
theorem batch_size_immaterial :
    (∀ {σ ω κ : Type} {e : Engine σ ω} {l : Layout} {held : ω → Custody} {link : ω → κ}
      {react : Bytes → σ → κ → Reaction σ κ} {s : EngineState σ ω},
      e.processor.Secluded held link react → e.endpoint.Quiet held link → e.Reachable l held s →
        ∀ (b₁ b₂ : Nat), 0 < b₁ → b₁ < 2 ^ 32 → 0 < b₂ → b₂ < 2 ^ 32 →
          ∃ t₁ t₂, (∀ t, Empties { e with batchSize := b₁ } s t ↔ t = t₁) ∧
            (∀ t, Empties { e with batchSize := b₂ } s t ↔ t = t₂) ∧
            (t₁.env.rings.rx.pending = [] ∧ t₁.env.rings.completion.pending = []) ∧
            (t₂.env.rings.rx.pending = [] ∧ t₂.env.rings.completion.pending = []) ∧ Agree link t₁ t₂) ∧
      (∀ {σ ω κ : Type} (name : String) (answer : Bytes → Except DropReason Bytes) (held : ω → Custody) (link : ω → κ),
        ∃ react, (Processor.responder name answer : Processor σ ω).Secluded held link react) ∧
      (∀ {ω κ : Type} {send : Bytes → Env ω → Except SystemError UInt64 × Env ω} {held : ω → Custody} {link : ω → κ}
        {transfer : Bytes → κ → Except SystemError UInt64 × κ}, Processor.SendsBy send held link transfer →
          ∃ react, (Processor.egress send).Secluded held link react) ∧
      ∀ {κ : Type} (needWakeup : Bool), Endpoint.Quiet
        ((Simulator.endpoint needWakeup).focus Prod.fst fun simulator (w : Simulator × κ) => (simulator, w.2))
        (Simulator.custody ·.1) Prod.snd := by
  refine ⟨?_, ?_, ?_, fun needWakeup env => ⟨_, rfl, rfl, rfl⟩⟩
  · intro σ ω κ e l held link react s secluded quiet reachable b₁ b₂ pos₁ lt₁ pos₂ lt₂
    have orderly := reachable.orderly (confined_of_quiet secluded quiet)
    obtain ⟨t₁, empties₁, first, orderly₁, received₁, collected₁⟩ :=
      exists_empties (e := { e with batchSize := b₁ }) secluded quiet (batchCount_ne_zero pos₁ lt₁) orderly
    obtain ⟨t₂, empties₂, second, orderly₂, received₂, collected₂⟩ :=
      exists_empties (e := { e with batchSize := b₂ }) secluded quiet (batchCount_ne_zero pos₂ lt₂) orderly
    refine ⟨t₁, t₂, fun t => ⟨fun empties => empties.unique empties₁, ?_⟩,
      fun t => ⟨fun empties => empties.unique empties₂, ?_⟩, ⟨received₁, collected₁⟩, ⟨received₂, collected₂⟩, ?_⟩
    · rintro rfl
      exact empties₁
    · rintro rfl
      exact empties₂
    · exact agree_of_advances first second orderly₁ orderly₂ (collected₁.trans collected₂.symm)
  · intro σ ω κ name answer held link
    exact ⟨_, Processor.secluded_responder name answer held link⟩
  · intro ω κ send held link transfer sends
    exact ⟨_, Processor.secluded_egress sends⟩

/-- Three packets have been received and are all to be sent back, and there is one slot on the transmit ring. One batch
and one batch for each packet send the same one. -/
theorem batch_size_immaterial_for_three_packets :
    let l : Layout := ⟨2048, 4, by decide, by decide⟩
    let e : Engine Unit Simulator :=
      ⟨.responder "mirror" .ok, Simulator.endpoint false, 64, .wait, .ofMilliseconds 1000⟩
    let s₀ := e.start l () { Env.blank Simulator.idle with
      rings := ⟨.blank 4 0xffffffff, .blank 1 0, .blank 4 0xffffffff, .blank 1 7⟩, umem := .zeroed l }
    let s := [Move.deliver [1], .deliver [2], .deliver [3]].foldl (e.act l) s₀
    s.env.rings.rx.pending.length = 3 ∧ s.env.rings.tx.freeSlots 0 = 1 ∧
      ∃ t₁ t₂, Empties { e with batchSize := 1 } s t₁ ∧ Empties { e with batchSize := 0xffffffff } s t₂ ∧
        t₁.env.rings.rx.pending = [] ∧ t₂.env.rings.rx.pending = [] ∧ t₁.env.rings.tx = t₂.env.rings.tx ∧
        t₁.env.stats = t₂.env.stats := by
  intro l e s₀ s
  have processor : e.processor = .responder "mirror" .ok := rfl
  have drives : e.DrivesSimulator := drivesSimulator_of_responder processor rfl
  have start : e.Simulated l s₀ :=
    .start () ⟨⟨⟨4, 0xffffffff, rfl⟩, ⟨1, 0, rfl⟩, ⟨4, 0xffffffff, rfl⟩, ⟨1, 7, rfl⟩⟩, Area.size_zeroed l, rfl⟩
  have simulated : e.Simulated l s := ((start.act (.deliver [1])).act (.deliver [2])).act (.deliver [3])
  have secluded := Processor.secluded_responder (σ := Unit) "mirror" .ok Simulator.custody fun _ => ()
  have quiet : e.endpoint.Quiet Simulator.custody fun _ => () := fun env => ⟨_, rfl, rfl, rfl⟩
  obtain ⟨t₁, t₂, empties₁, empties₂, ⟨received₁, -⟩, ⟨received₂, -⟩, agree⟩ :=
    batch_size_immaterial.1 secluded quiet (simulated.reachable drives) 1 0xffffffff (by decide) (by decide) (by decide)
      (by decide)
  refine ⟨by decide +kernel, by decide +kernel, t₁, t₂, (empties₁ t₁).mpr rfl, (empties₂ t₂).mpr rfl, received₁, received₂,
    agree.tx, agree.stats⟩

end Engine

end XdpEcho
