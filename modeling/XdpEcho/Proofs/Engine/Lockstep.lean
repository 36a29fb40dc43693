import XdpEcho.Proofs.Engine.Phases

/-!
# Engines in lockstep

Two engines work on states that are related in some way. When every phase of a batch returns the same on both sides and
leaves the states related, whole batches do so too, whatever the relation is.

* `Engine.Lockstep` — the phases.
* `Engine.Lockstep.work`, `Engine.Lockstep.reclaim`, `Engine.Lockstep.processBatch` — what they add up to.
-/

namespace XdpEcho

namespace Engine

variable {σ ω α : Type} {e e' : Engine σ ω} {related : EngineState σ ω → EngineState σ ω → Prop} {s s' : EngineState σ ω}

/-- The same is returned on both sides, and the states are related afterwards. -/
def InStep (related : EngineState σ ω → EngineState σ ω → Prop) (r r' : α × EngineState σ ω) : Prop :=
  r'.1 = r.1 ∧ related r.2 r'.2

/-- Every phase of a batch keeps two engines in step. -/
structure Lockstep (e e' : Engine σ ω) (related : EngineState σ ω → EngineState σ ω → Prop) : Prop where
  drain : ∀ {s s' : EngineState σ ω}, related s s' → InStep related (e.drain s) (e'.drain s')
  replenish : ∀ {s s' : EngineState σ ω}, related s s' → related s.replenish s'.replenish
  judge : ∀ (desc : Descriptor) {s s' : EngineState σ ω}, related s s' →
    InStep related (e.judge desc s) (e'.judge desc s')
  settle : ∀ (descs : List Descriptor) (verdicts : List Verdict) {s s' : EngineState σ ω}, related s s' →
    related (settle descs verdicts s) (settle descs verdicts s')
  kicks : ∀ {s s' : EngineState σ ω}, related s s' → s'.outstandingTx = s.outstandingTx ∧ e'.kicks s' = e.kicks s
  kickTx : ∀ {s s' : EngineState σ ω}, related s s' →
    InStep related ((e.endpoint.kickTx s.env).1, { s with env := (e.endpoint.kickTx s.env).2 })
      ((e'.endpoint.kickTx s'.env).1, { s' with env := (e'.endpoint.kickTx s'.env).2 })
  collect : ∀ {s s' : EngineState σ ω}, related s s' → related (collect s) (collect s')

namespace Lockstep

theorem judgeAll (lockstep : e.Lockstep e' related) (descs : List Descriptor) (before : related s s') :
    InStep related (e.judgeAll descs s) (e'.judgeAll descs s') := by
  induction descs generalizing s s' with
  | nil => exact ⟨rfl, before⟩
  | cons desc rest ih =>
    obtain ⟨verdict, between⟩ := lockstep.judge desc before
    obtain ⟨verdicts, after⟩ := ih between
    exact ⟨congrArg₂ List.cons verdict verdicts, after⟩

theorem process (lockstep : e.Lockstep e' related) (descs : List Descriptor) (before : related s s') :
    related (e.process descs s) (e'.process descs s') := by
  obtain ⟨verdicts, judged⟩ := lockstep.judgeAll descs before
  rw [Engine.process, Engine.process]
  dsimp only
  rw [verdicts]
  exact lockstep.settle descs _ judged

theorem work (lockstep : e.Lockstep e' related) (before : related s s') :
    InStep related (e.work s) (e'.work s') := by
  obtain ⟨descs, drained⟩ := lockstep.drain before
  refine ⟨descs, ?_⟩
  rw [Engine.work, Engine.work]
  dsimp only
  rw [descs]
  split
  next => exact drained
  next => exact lockstep.process _ (lockstep.replenish drained)

theorem reclaim (lockstep : e.Lockstep e' related) (before : related s s') :
    InStep related (e.reclaim s) (e'.reclaim s') := by
  obtain ⟨outstanding, kicks⟩ := lockstep.kicks before
  by_cases none : s.outstandingTx = 0
  · rw [Engine.reclaim, Engine.reclaim, if_pos none, if_pos (outstanding.trans none)]
    exact ⟨rfl, before⟩
  · have none' : ¬ s'.outstandingTx = 0 := by rwa [outstanding]
    rw [Engine.reclaim, Engine.reclaim, if_neg none, if_neg none', kicks]
    split
    next =>
      obtain ⟨answer, kicked⟩ := lockstep.kickTx before
      generalize e.endpoint.kickTx s.env = call at *
      generalize e'.endpoint.kickTx s'.env = call' at *
      obtain ⟨result, env⟩ := call
      obtain ⟨_, env'⟩ := call'
      cases answer
      cases result with
      | error => exact ⟨rfl, kicked⟩
      | ok => exact ⟨rfl, lockstep.collect kicked⟩
    next => exact ⟨rfl, lockstep.collect before⟩

theorem processBatch (lockstep : e.Lockstep e' related) (before : related s s') :
    InStep related (e.processBatch s) (e'.processBatch s') := by
  obtain ⟨descs, worked⟩ := lockstep.work before
  obtain ⟨answer, reclaimed⟩ := lockstep.reclaim worked
  rw [processBatch_eq, processBatch_eq, descs]
  generalize e.reclaim (e.work s).2 = r at *
  generalize e'.reclaim (e'.work s').2 = r' at *
  obtain ⟨result, t⟩ := r
  obtain ⟨_, t'⟩ := r'
  cases answer
  cases result with
  | ok => exact ⟨rfl, reclaimed⟩
  | error => exact ⟨rfl, reclaimed⟩

end Lockstep

end Engine

end XdpEcho
