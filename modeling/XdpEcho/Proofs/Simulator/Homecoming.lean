import Mathlib.Data.Nat.Find
import XdpEcho.Proofs.Engine.Progress
import XdpEcho.Proofs.Simulator.Runs

/-!
# Every frame comes home

A frame that is not at hand waits in one of five places: it has been received, is queued for sending, in flight, sent, or
counted as outstanding. When no more packets come in, rounds of a batch, taking what is queued and giving back what is in
flight bring every frame back to the free stack or the fill ring. Of what is ahead a round leaves less, however few slots
the completion ring has.

* `Engine.DrivesPart`, `Engine.round` — an engine over the simulated kernel side beside anything else, and one round.
* `Engine.Home` — nothing is on its way.
* `Engine.ahead`, `Engine.round_ahead` — what is ahead gets less in every round, until every frame is home.
* `Engine.every_frame_comes_home` — from any state that an engine gets to, twice as many rounds as there are frames
  suffice, and two more.
-/

namespace XdpEcho

variable {σ ω α : Type} {l : Layout}

/-! ### A part of the surroundings -/

section Part

variable {get : ω → Simulator} {set : Simulator → ω → ω}

/-- What the simulated kernel side holds when it is a part of the surroundings. -/
def Simulator.partCustody (get : ω → Simulator) (world : ω) : Custody :=
  Simulator.custody (get world)

/-- A lawful move is lawful also when the simulated kernel side is a part of the surroundings. -/
theorem Simulator.kernelRun_focus (whole : ∀ simulator world, get (set simulator world) = simulator)
    (move : Env Simulator → α × Env Simulator) {env : Env ω}
    (run : KernelRun l ((env.withWorld (get env.world)).port custody)
      ((move (env.withWorld (get env.world))).2.port custody)) :
    KernelRun l (env.port (partCustody get)) ((env.focus get set move).2.port (partCustody get)) := by
  have custody : partCustody get (env.focus get set move).2.world =
      Simulator.custody (move (env.withWorld (get env.world))).2.world := congrArg Simulator.custody (whole _ _)
  have port : (env.focus get set move).2.port (partCustody get) =
      (move (env.withWorld (get env.world))).2.port Simulator.custody := Prod.ext rfl custody
  rw [port]
  exact run

end Part

namespace Engine

variable {e : Engine σ ω} {get : ω → Simulator} {set : Simulator → ω → ω} {s t : EngineState σ ω}

/-- An engine drives the simulated kernel side, which is a part of its surroundings, and its processor sees packets
only. -/
structure DrivesPart (e : Engine σ ω) (get : ω → Simulator) (set : Simulator → ω → ω) : Prop where
  whole : ∀ (simulator : Simulator) (world : ω), get (set simulator world) = simulator
  endpoint : ∃ needWakeup, e.endpoint = (Simulator.endpoint needWakeup).focus get set
  keepsRings : e.processor.Keeps (·.rings)
  keepsPart : e.processor.Keeps (get ·.world)

/-- One round without deliveries: a batch, then everything queued is taken, and as much as there is room for is given
back. -/
def round (e : Engine σ ω) (get : ω → Simulator) (set : Simulator → ω → ω) (s : EngineState σ ω) : EngineState σ ω :=
  let s := (e.processBatch s).2
  let s := s.mapEnv fun env => (env.focus get set Simulator.transmit).2
  s.mapEnv fun env => (env.focus get set (Simulator.complete 0xffffffffffffffff)).2

/-- Nothing is received, queued, in flight, sent or counted, and every frame is on the free stack or the fill ring. -/
structure Home (l : Layout) (get : ω → Simulator) (s : EngineState σ ω) : Prop where
  rx : s.env.rings.rx.pending = []
  tx : s.env.rings.tx.pending = []
  completion : s.env.rings.completion.pending = []
  inFlight : (get s.env.world).inFlight = []
  outstandingTx : s.outstandingTx = 0
  frames : s.pool.freeCount + s.env.rings.fill.pending.length = l.capacity

theorem DrivesPart.kickTx (drives : e.DrivesPart get set) (env : Env ω) :
    ∃ env', e.endpoint.kickTx env = (.ok (), env') ∧ env'.rings = env.rings ∧
      (get env'.world).inFlight = (get env.world).inFlight := by
  obtain ⟨needWakeup, endpoint⟩ := drives.endpoint
  rw [endpoint]
  exact ⟨_, rfl, rfl, (congrArg Simulator.inFlight (drives.whole _ env.world)).trans rfl⟩

theorem DrivesPart.confined (drives : e.DrivesPart get set) : e.Confined l (Simulator.partCustody get) := by
  refine ⟨drives.keepsRings, fun packet state env => ?_, fun env => ?_⟩
  · exact congrArg Simulator.custody (drives.keepsPart packet state env)
  · obtain ⟨env', kicked, rings, inFlight⟩ := drives.kickTx env
    have same : env'.port (Simulator.partCustody get) = env.port (Simulator.partCustody get) :=
      Prod.ext rings (congrArg (Custody.mk []) inFlight)
    rw [kicked, same]

/-! ### The parts of a round -/

/-- Telling the simulated kernel side of the transmit ring never fails, and reclaiming leaves nothing on the completion
ring and moves nothing else that is on its way. -/
theorem DrivesPart.reclaim (drives : e.DrivesPart get set)
    (orderly : Orderly l (Simulator.partCustody get s.env.world) s) :
    ∃ t, e.reclaim s = (.ok (), t) ∧ t.env.rings.rx = s.env.rings.rx ∧ t.env.rings.tx = s.env.rings.tx ∧
      (get t.env.world).inFlight = (get s.env.world).inFlight ∧ t.env.rings.completion.pending = [] := by
  obtain ⟨t, reclaimed, rx, tx, inFlight⟩ : ∃ t, e.reclaim s = (.ok (), t) ∧ t.env.rings.rx = s.env.rings.rx ∧
      t.env.rings.tx = s.env.rings.tx ∧ (get t.env.world).inFlight = (get s.env.world).inFlight := by
    rw [Engine.reclaim]
    split
    next => exact ⟨s, rfl, rfl, rfl, rfl⟩
    next =>
      split
      next =>
        obtain ⟨env', kicked, rings, inFlight⟩ := drives.kickTx s.env
        rw [kicked, ← rings]
        exact ⟨_, rfl, rfl, rfl, inFlight⟩
      next => exact ⟨_, rfl, rfl, rfl, rfl⟩
  obtain ⟨-, empty, -⟩ := reclaim_collects drives.confined orderly reclaimed
  exact ⟨t, reclaimed, rx, tx, inFlight, empty rfl⟩

/-- A batch takes packets off the receive ring, at least one when there is any, sends no more than that, and leaves
nothing on the completion ring. -/
theorem DrivesPart.processBatch (drives : e.DrivesPart get set) (some : e.batchCount ≠ 0)
    (orderly : Orderly l (Simulator.partCustody get s.env.world) s) :
    ∃ received sent t, e.processBatch s = (.ok received, t) ∧
      Orderly l (Simulator.partCustody get t.env.world) t ∧ sent ≤ received ∧
      received + t.env.rings.rx.pending.length = s.env.rings.rx.pending.length ∧
      t.env.rings.tx.pending.length = s.env.rings.tx.pending.length + sent ∧
      (get t.env.world).inFlight = (get s.env.world).inFlight ∧ t.env.rings.completion.pending = [] ∧
      (received = 0 → s.env.rings.rx.pending.length = 0) := by
  obtain ⟨⟨left, -, sent, queued, fewer⟩, custody, progress⟩ := work_passes drives.confined orderly
  obtain ⟨t, reclaimed, rx, tx, inFlight, empty⟩ := drives.reclaim (work_orderly drives.confined orderly)
  have batch : e.processBatch s = (.ok (e.work s).1.length, t) := processBatch_eq_ok_iff.mpr ⟨reclaimed, rfl⟩
  have orderly' := processBatch_orderly drives.confined orderly
  rw [batch] at orderly'
  refine ⟨(e.work s).1.length, sent.length, t, batch, orderly', fewer, ?_, ?_, ?_, empty, fun none => ?_⟩
  · rw [rx, ← left, List.length_append]
  · rw [tx, queued, List.length_append]
  · exact inFlight.trans (congrArg Custody.tx custody)
  · rw [progress some (List.length_eq_zero_iff.mp none), List.length_nil]

/-- Everything queued is in flight afterwards. -/
theorem DrivesPart.transmit (drives : e.DrivesPart get set)
    (orderly : Orderly l (Simulator.partCustody get s.env.world) s) :
    ∃ t, s.mapEnv (fun env => (env.focus get set Simulator.transmit).2) = t ∧
      Orderly l (Simulator.partCustody get t.env.world) t ∧
      t.env.rings.rx.pending = s.env.rings.rx.pending ∧ t.env.rings.tx.pending = [] ∧
      t.env.rings.completion.pending = s.env.rings.completion.pending ∧
      (get t.env.world).inFlight.length =
        (get s.env.world).inFlight.length + s.env.rings.tx.pending.length := by
  have run := Simulator.kernelRun_focus (l := l) drives.whole Simulator.transmit
    (Simulator.kernelRun_transmit (orderly.tx.lawful : (s.env.withWorld (get s.env.world)).rings.tx.Lawful))
  have moved : Simulator.transmit (s.env.withWorld (get s.env.world)) = _ :=
    Simulator.transmit_eq orderly.tx.lawful
  refine ⟨_, rfl, orderly_of_call orderly run, ?_⟩
  simp only [EngineState.mapEnv, Env.focus, moved]
  simp only [Env.withWorld, drives.whole]
  refine ⟨trivial, s.env.rings.tx.pending_consume_all, trivial, ?_⟩
  rw [List.length_append, List.length_map]

/-- As much of what is in flight is given back as the completion ring holds, and at least one frame when there is any. -/
theorem DrivesPart.complete (drives : e.DrivesPart get set)
    (orderly : Orderly l (Simulator.partCustody get s.env.world) s) (collected : s.env.rings.completion.pending = [])
    {most : Nat} (all : 2 ^ 32 ≤ most) :
    ∃ back t, s.mapEnv (fun env => (env.focus get set (Simulator.complete most)).2) = t ∧
      Orderly l (Simulator.partCustody get t.env.world) t ∧
      t.env.rings.rx.pending = s.env.rings.rx.pending ∧ t.env.rings.tx.pending = s.env.rings.tx.pending ∧
      t.env.rings.completion.pending.length = back ∧
      back + (get t.env.world).inFlight.length = (get s.env.world).inFlight.length ∧
      (back = 0 → (get s.env.world).inFlight.length = 0) := by
  have lawful := orderly.completion.lawful
  have countable : (get s.env.world).inFlight.length < 2 ^ 32 := orderly.length_tx_lt
  have run := Simulator.kernelRun_focus (l := l) drives.whole (Simulator.complete most)
    (Simulator.kernelRun_complete most (lawful : (s.env.withWorld (get s.env.world)).rings.completion.Lawful) countable)
  have moved : Simulator.complete most (s.env.withWorld (get s.env.world)) = _ :=
    Simulator.complete_eq most lawful countable
  obtain ⟨back, amount⟩ : ∃ back, Simulator.completable most (s.env.withWorld (get s.env.world)) = back := ⟨_, rfl⟩
  have slots := lawful.sized.slots_size_pos
  have empty := s.env.rings.completion.length_pending
  rw [collected, List.length_nil] at empty
  have least : back = min (get s.env.world).inFlight.length s.env.rings.completion.slots.size := by
    rw [← amount, Simulator.completable, Ring.freeSlots]
    simp only [Env.withWorld]
    omega
  refine ⟨back, _, rfl, orderly_of_call orderly run, ?_⟩
  simp only [EngineState.mapEnv, Env.focus, moved, amount]
  simp only [Env.withWorld, drives.whole]
  refine ⟨trivial, trivial, ?_, ?_, ?_⟩
  · rw [lawful.pending_push, collected, List.nil_append, List.length_take]
    · omega
    · rw [List.length_take]
      omega
  · rw [List.length_drop]
    omega
  · omega

/-! ### Rounds -/

/-- How much a frame has ahead of it: what has been received may still be sent, what is queued or in flight will come
back. -/
def ahead (get : ω → Simulator) (s : EngineState σ ω) : Nat :=
  2 * s.env.rings.rx.pending.length + s.env.rings.tx.pending.length + (get s.env.world).inFlight.length

theorem Home.ahead_eq (home : Home l get s) : ahead get s = 0 := by
  rw [ahead, home.rx, home.tx, home.inFlight]
  rfl

theorem Orderly.ahead_le (orderly : Orderly l (Simulator.partCustody get s.env.world) s) :
    ahead get s ≤ 2 * l.capacity := by
  have total := orderly.length_whereabouts
  simp only [EngineState.whereabouts, Simulator.partCustody, Simulator.custody, List.length_append, List.length_map]
    at total
  rw [ahead]
  omega

/-- When nothing is ahead and nothing is left on the completion ring, every frame is home. -/
theorem home_of_ahead_eq (orderly : Orderly l (Simulator.partCustody get s.env.world) s) (none : ahead get s = 0)
    (collected : s.env.rings.completion.pending = []) : Home l get s := by
  rw [ahead] at none
  have rx : s.env.rings.rx.pending = [] := List.length_eq_zero_iff.mp (by omega)
  have tx : s.env.rings.tx.pending = [] := List.length_eq_zero_iff.mp (by omega)
  have inFlight : (get s.env.world).inFlight = [] := List.length_eq_zero_iff.mp (by omega)
  have outstanding := orderly.outstanding
  have total := orderly.length_whereabouts
  simp only [EngineState.whereabouts, Simulator.partCustody, Simulator.custody, rx, tx, inFlight, collected,
    List.map_nil, List.append_nil, List.length_append, List.length_nil] at outstanding total
  exact ⟨rx, tx, collected, inFlight, UInt32.toNat_inj.mp outstanding, total⟩

/-- Every round leaves less ahead, and when nothing is ahead it brings the last frames home. -/
theorem round_ahead (drives : e.DrivesPart get set) (some : e.batchCount ≠ 0)
    (orderly : Orderly l (Simulator.partCustody get s.env.world) s) :
    Orderly l (Simulator.partCustody get (e.round get set s).env.world) (e.round get set s) ∧
      (ahead get (e.round get set s) < ahead get s ∨ ahead get s = 0 ∧ Home l get (e.round get set s)) := by
  obtain ⟨received, sent, t, batch, orderly₁, fewer, rx₁, tx₁, inFlight₁, collected₁, progress⟩ :=
    drives.processBatch some orderly
  obtain ⟨u, taken, orderly₂, rx₂, tx₂, completion₂, inFlight₂⟩ := drives.transmit orderly₁
  obtain ⟨back, v, given, orderly₃, rx₃, tx₃, completion₃, inFlight₃, last⟩ :=
    drives.complete orderly₂ (completion₂.trans collected₁) (by decide : 2 ^ 32 ≤ 0xffffffffffffffff)
  have rounded : e.round get set s = v := by
    rw [round, batch]
    dsimp only
    rw [taken, given]
  rw [rounded]
  refine ⟨orderly₃, ?_⟩
  have after : ahead get v + 2 * received + back = ahead get s + sent := by
    rw [ahead, ahead, rx₃, rx₂, tx₃, tx₂, List.length_nil]
    rw [inFlight₁] at inFlight₂
    omega
  by_cases none : ahead get s = 0
  · refine .inr ⟨none, home_of_ahead_eq orderly₃ (by omega) (List.length_eq_zero_iff.mp ?_)⟩
    omega
  · -- With nothing received there is something in flight after all that was queued has been taken, and some of it is back.
    left
    by_cases idle : received = 0
    · have := progress idle
      have busy : back ≠ 0 := by
        intro nothing
        have := last nothing
        rw [ahead] at none
        rw [inFlight₁] at inFlight₂
        omega
      omega
    · omega

theorem home_of_lt_rounds (drives : e.DrivesPart get set) (some : e.batchCount ≠ 0)
    (orderly : Orderly l (Simulator.partCustody get s.env.world) s) {rounds : Nat} (enough : ahead get s ≤ rounds) :
    Home l get ((e.round get set)^[rounds + 1] s) := by
  induction rounds generalizing s with
  | zero =>
    obtain ⟨-, less | ⟨-, home⟩⟩ := round_ahead drives some orderly
    · omega
    · exact home
  | succ rounds ih =>
    rw [Function.iterate_succ_apply]
    obtain ⟨orderly', less | ⟨-, home⟩⟩ := round_ahead drives some orderly
    · exact ih orderly' (by omega)
    · exact ih orderly' (home.ahead_eq ▸ Nat.zero_le _)

theorem rounds_orderly (drives : e.DrivesPart get set) (some : e.batchCount ≠ 0)
    (orderly : Orderly l (Simulator.partCustody get s.env.world) s) (rounds : Nat) :
    Orderly l (Simulator.partCustody get ((e.round get set)^[rounds] s).env.world) ((e.round get set)^[rounds] s) := by
  induction rounds with
  | zero => exact orderly
  | succ rounds ih =>
    rw [Function.iterate_succ_apply']
    exact (round_ahead drives some ih).1

/-! ### Home -/

/-- Every frame comes home. Take any state that an engine gets to whose other side keeps to its part, whatever the
processor, the layout and the sizes of the rings, and also when notices of the transmit ring have failed before. From
there on let rounds of a batch, taking all that is queued and giving back all that is in flight follow one another, with
no deliveries in between. Then no batch fails, and there is a first round after which nothing is received, queued, in
flight, sent or counted and every frame is on the free stack or the fill ring. It comes after at most twice as many
rounds as there are frames, and one more, and things stay so in all rounds after it. -/
theorem every_frame_comes_home (drives : e.DrivesPart get set) (pos : 0 < e.batchSize) (lt : e.batchSize < 2 ^ 32)
    {e₀ : Engine σ ω} (confined : e₀.Confined l (Simulator.partCustody get))
    (reachable : e₀.Reachable l (Simulator.partCustody get) s) :
    (∀ rounds, ∃ received t, e.processBatch ((e.round get set)^[rounds] s) = (.ok received, t)) ∧
      ∃ first ≤ 2 * l.capacity + 1, ∀ rounds, Home l get ((e.round get set)^[rounds] s) ↔ first ≤ rounds := by
  classical
  have some : e.batchCount ≠ 0 := batchCount_ne_zero pos lt
  have orderly := rounds_orderly drives some (reachable.orderly confined)
  have enough : Home l get ((e.round get set)^[2 * l.capacity + 1] s) :=
    home_of_lt_rounds drives some (reachable.orderly confined) (Orderly.ahead_le (reachable.orderly confined))
  constructor
  · intro rounds
    obtain ⟨received, -, t, batch, -⟩ := drives.processBatch some (orderly rounds)
    exact ⟨received, t, batch⟩
  · have found : ∃ rounds, Home l get ((e.round get set)^[rounds] s) := ⟨_, enough⟩
    refine ⟨Nat.find found, Nat.find_min' found enough, fun rounds => ⟨Nat.find_min' found, fun late => ?_⟩⟩
    -- When every frame is home nothing is ahead, so it takes one round, however many there are.
    induction rounds, late using Nat.le_induction with
    | base => exact Nat.find_spec found
    | succ rounds _ home =>
      rw [Function.iterate_succ_apply']
      exact home_of_lt_rounds drives some (orderly rounds) (Nat.le_of_eq home.ahead_eq)

/-- An engine over the simulated kernel side and nothing else. -/
theorem DrivesSimulator.drivesPart {e : Engine σ Simulator} (drives : e.DrivesSimulator) :
    e.DrivesPart id fun simulator _ => simulator where
  whole _ _ := rfl
  endpoint := drives.endpoint
  keepsRings := drives.keepsRings
  keepsPart := drives.keepsWorld

/-- Three packets have been received, one of them is on its way back, and the transmit ring and the completion ring have
one slot each. After at most nine rounds all four frames are home, and they stay there. -/
theorem every_frame_comes_home_through_one_slot :
    let l : Layout := ⟨2048, 4, by decide, by decide⟩
    let e : Engine Unit Simulator :=
      ⟨.responder "mirror" .ok, Simulator.endpoint false, 1, .wait, .ofMilliseconds 1000⟩
    let s₀ := e.start l () { Env.blank Simulator.idle with
      rings := ⟨.blank 4 0xffffffff, .blank 1 0, .blank 4 0xffffffff, .blank 1 7⟩, umem := .zeroed l }
    let s := [Move.deliver [1], .deliver [2], .deliver [3], .batch].foldl (e.act l) s₀
    s.env.rings.rx.pending.length = 2 ∧ s.env.rings.tx.pending.length = 1 ∧
      ∃ first ≤ 9, ∀ rounds, Home l id ((e.round id fun simulator _ => simulator)^[rounds] s) ↔ first ≤ rounds := by
  intro l e s₀ s
  have processor : e.processor = .responder "mirror" .ok := rfl
  have drives : e.DrivesSimulator := drivesSimulator_of_responder processor rfl
  have start : e.Simulated l s₀ :=
    .start () ⟨⟨⟨4, 0xffffffff, rfl⟩, ⟨1, 0, rfl⟩, ⟨4, 0xffffffff, rfl⟩, ⟨1, 7, rfl⟩⟩, Area.size_zeroed l, rfl⟩
  have simulated : e.Simulated l s :=
    (((start.act (.deliver [1])).act (.deliver [2])).act (.deliver [3])).act .batch
  refine ⟨by decide +kernel, by decide +kernel, ?_⟩
  exact (every_frame_comes_home drives.drivesPart (by decide) (by decide) drives.confined
    (simulated.reachable drives)).2

end Engine

end XdpEcho
