import XdpEcho.Proofs.Simulator.Moves

/-!
# No frame is lost

Every frame of the umem is in exactly one place in every state that an engine gets to, whatever its processor says about
packets, whether or not the other side can be told of the transmit ring, and in whatever order batches and steps of the
other side follow one another.

* `Engine.frames_conserved` — the partition, and that the moves of the simulated kernel side are steps it is kept by.
-/

namespace XdpEcho

variable {σ ω : Type} {l : Layout}

/-- Telling the simulated kernel side of the transmit ring does nothing to the rings. -/
theorem Simulator.confined {e : Engine σ Simulator} {needWakeup : Bool} (keepsRings : e.processor.Keeps (·.rings))
    (keepsCustody : e.processor.Keeps (custody ·.world)) (endpoint : e.endpoint = Simulator.endpoint needWakeup) :
    e.Confined l custody where
  keepsRings := keepsRings
  keepsCustody := keepsCustody
  kickTx env := by
    rw [endpoint]
    exact .refl

namespace Engine

/-- Every frame is in exactly one place. Take any processor, any four rings with nothing on them and their cursors
anywhere, and any order of batches and lawful steps of the other side. Then the bases of the addresses on the free
stack, pending on the fill ring, held for receiving, pending on the receive ring and on the transmit ring, held for
sending, and pending on the completion ring are together a permutation of all frames, and the pool has refused nothing.

The simulated kernel side is such an other side: whatever it delivers, transmits or completes is a run of lawful
steps. -/
theorem frames_conserved :
    (∀ {σ ω : Type} {e : Engine σ ω} {l : Layout} {held : ω → Custody} {s : EngineState σ ω},
      e.Confined l held → e.Reachable l held s →
        ((s.whereabouts (held s.env.world)).map l.frameBase).Perm l.frames ∧ s.pool.rejected = 0) ∧
      ∀ {σ : Type} {e : Engine σ Simulator} {l : Layout} {s : EngineState σ Simulator},
        e.Confined l Simulator.custody → e.Reachable l Simulator.custody s →
          (∀ packet, KernelRun l (s.env.port Simulator.custody)
            ((Simulator.deliver l packet s.env).2.port Simulator.custody)) ∧
          KernelRun l (s.env.port Simulator.custody) ((Simulator.transmit s.env).2.port Simulator.custody) ∧
          ∀ most, KernelRun l (s.env.port Simulator.custody)
            ((Simulator.complete most s.env).2.port Simulator.custody) := by
  constructor
  · intro σ ω e l held s confined reachable
    have orderly := reachable.orderly confined
    exact ⟨orderly.partition, orderly.rejected⟩
  · intro σ e l s confined reachable
    have orderly := reachable.orderly confined
    have offered := (List.append_subset.mp orderly.offered).1
    refine ⟨?_, Simulator.kernelRun_transmit orderly.tx.lawful, ?_⟩
    · intro packet
      exact Simulator.kernelRun_deliver packet orderly.fill.lawful orderly.rx.lawful offered
    · intro most
      exact Simulator.kernelRun_complete most orderly.completion.lawful orderly.length_tx_lt

/-- Two frames over rings that wrap, after a packet has been delivered and handled. -/
theorem frames_conserved_after_a_packet :
    let l : Layout := ⟨2048, 2, by decide, by decide⟩
    let e : Engine Unit Simulator := ⟨.icmp, Simulator.endpoint false, 64, .wait, .ofMilliseconds 1000⟩
    let s := e.start l () { Env.blank Simulator.idle with
      rings := ⟨.blank 2 0xffffffff, .blank 4 0, .blank 2 0xffffffff, .blank 1 7⟩, umem := .zeroed l }
    let t := (e.processBatch { s with env := (Simulator.deliver l [1, 2, 3] s.env).2 }).2
    ((t.whereabouts (Simulator.custody t.env.world)).map l.frameBase).Perm [0, 2048] ∧ t.pool.rejected = 0 ∧
      KernelRun l (t.env.port Simulator.custody) ((Simulator.transmit t.env).2.port Simulator.custody) := by
  intro l e s t
  have confined : e.Confined l Simulator.custody :=
    Simulator.confined (Processor.keeps_responder _ _ fun _ _ => rfl) (Processor.keeps_responder _ _ fun _ _ => rfl)
      rfl
  have started : e.Reachable l Simulator.custody s :=
    .start () ⟨⟨2, 0xffffffff, rfl⟩, ⟨4, 0, rfl⟩, ⟨2, 0xffffffff, rfl⟩, ⟨1, 7, rfl⟩⟩ rfl
  have delivered := frames_conserved.2 confined started |>.1 [1, 2, 3]
  have handled : e.Reachable l Simulator.custody t := .batch (.kernel started delivered)
  have conserved := frames_conserved.1 confined handled
  exact ⟨conserved.1, conserved.2, (frames_conserved.2 confined handled).2.1⟩

end Engine

end XdpEcho
