import Mathlib.Data.Set.Card
import XdpEcho.Proofs.Umem.FramePool

/-!
# Which frames are handed out

A frame is handed out from the allocation that returns it until the next address inside it is given back. That is said
of what has happened to a pool and not of what the pool remembers. Whoever gives addresses back may give back any at
all: such that lie in the middle of a frame, in a frame that is free, in one that was never handed out, or outside the
umem.

* `FramePool.Lived` — the pools that a full one can become, each with its history.
* `FramePool.HandedOut` — which frames are handed out after a history.
* `FramePool.Lived.accounted` — after every history these are the frames that are not on the stack.
* `FramePool.handed_out_once` — no frame is handed out twice, and none is lost.
-/

namespace XdpEcho

/-- Something that has happened to a pool. -/
inductive PoolEvent where
  /-- A frame was asked for, and this was the answer. -/
  | allocated (answer : Option UInt64)
  /-- An address was given back, whatever became of it. -/
  | released (addr : UInt64)

namespace FramePool

/-- What a request does to a pool, and what is seen of it. -/
inductive Step : FramePool → PoolEvent → FramePool → Prop
  | allocated {p q : FramePool} {addr : UInt64} (taken : p.allocate? = some (addr, q)) :
      Step p (.allocated (some addr)) q
  | exhausted {p : FramePool} (empty : p.allocate? = none) : Step p (.allocated none) p
  | released (p : FramePool) (addr : UInt64) : Step p (.released addr) (p.release addr)

/-- The pools that a full one can become by requests in any order, each with what has happened to it, the latest last. -/
inductive Lived (l : Layout) : List PoolEvent → FramePool → Prop
  | full : Lived l [] (full l)
  | step {history : List PoolEvent} {event : PoolEvent} {p q : FramePool} (before : Lived l history p)
      (step : Step p event q) : Lived l (history ++ [event]) q

/-- The frame was the answer to an allocation, and no address inside it has been given back since. -/
def HandedOut (l : Layout) (history : List PoolEvent) (base : UInt64) : Prop :=
  ∃ before after, history = before ++ .allocated (some base) :: after ∧
    ∀ addr, .released addr ∈ after → l.frameBase addr ≠ base

variable {l : Layout} {history : List PoolEvent} {p : FramePool} {base : UInt64}

/-! ### What one event hands out or takes back -/

@[simp] theorem not_handedOut_nil : ¬ HandedOut l [] base := by
  rintro ⟨before, after, eq, -⟩
  simp at eq

/-- An event at the end of a history: either it is the allocation itself, or it lets an earlier one stand. -/
theorem handedOut_append_iff {event : PoolEvent} :
    HandedOut l (history ++ [event]) base ↔
      event = .allocated (some base) ∨
        HandedOut l history base ∧ ∀ addr, event = .released addr → l.frameBase addr ≠ base := by
  constructor
  · rintro ⟨before, after, eq, kept⟩
    rcases List.eq_nil_or_concat after with rfl | ⟨after, last, rfl⟩
    · obtain ⟨-, eq⟩ := List.append_inj' eq rfl
      exact .inl (List.singleton_inj.mp eq)
    · rw [List.concat_eq_append] at eq kept
      rw [← List.cons_append, ← List.append_assoc] at eq
      obtain ⟨rfl, same⟩ := List.append_inj' eq rfl
      cases List.singleton_inj.mp same
      refine .inr ⟨⟨before, after, rfl, fun addr mem => kept addr (List.mem_append_left _ mem)⟩, ?_⟩
      rintro addr rfl
      exact kept addr (List.mem_append_right _ List.mem_cons_self)
  · rintro (rfl | ⟨⟨before, after, rfl, kept⟩, spared⟩)
    · exact ⟨history, [], rfl, nofun⟩
    · refine ⟨before, after ++ [event], by simp, fun addr mem => ?_⟩
      rcases List.mem_append.mp mem with mem | mem
      · exact kept addr mem
      · exact spared addr (List.mem_singleton.mp mem).symm

@[simp] theorem handedOut_allocated_iff {addr : UInt64} :
    HandedOut l (history ++ [.allocated (some addr)]) base ↔ addr = base ∨ HandedOut l history base := by
  simp [handedOut_append_iff]

@[simp] theorem handedOut_exhausted_iff :
    HandedOut l (history ++ [.allocated none]) base ↔ HandedOut l history base := by
  simp [handedOut_append_iff]

@[simp] theorem handedOut_released_iff {addr : UInt64} :
    HandedOut l (history ++ [.released addr]) base ↔ HandedOut l history base ∧ l.frameBase addr ≠ base := by
  simp [handedOut_append_iff]

/-! ### The invariant -/

/-- The pool is sound, and the frames that are handed out are those that are not on its stack. -/
structure Accounted (l : Layout) (history : List PoolEvent) (p : FramePool) : Prop where
  layout : p.layout = l
  sound : p.Sound
  away : ∀ base, HandedOut l history base ↔ base ∈ l.frames ∧ base ∉ p.stack

namespace Accounted

theorem full (l : Layout) : Accounted l [] (full l) where
  layout := rfl
  sound := sound_full l
  away base := by simp [stack_full]

/-- The frame on top of the stack was not handed out, and now it is. -/
theorem allocate? (accounted : Accounted l history p) {addr : UInt64} {q : FramePool}
    (taken : p.allocate? = some (addr, q)) :
    Accounted l (history ++ [.allocated (some addr)]) q ∧ addr ∈ l.frames ∧ ¬ HandedOut l history addr := by
  cases top : p.stack with
  | nil =>
    simp only [FramePool.allocate?, top] at taken
    cases taken
  | cons first rest =>
    obtain ⟨q', taken', restacked⟩ := accounted.sound.allocate? top
    rw [taken', Option.some.injEq, Prod.mk.injEq] at taken
    obtain ⟨rfl, rfl⟩ := taken
    have frames := accounted.layout ▸ accounted.sound.frames
    rw [top] at frames
    obtain ⟨here, -⟩ := List.cons_subset.mp frames
    obtain ⟨fresh, -⟩ := List.nodup_cons.mp (top ▸ accounted.sound.nodup)
    refine ⟨⟨restacked.layout.trans accounted.layout, restacked.sound, fun base => ?_⟩, here, ?_⟩
    · rw [handedOut_allocated_iff, accounted.away, restacked.stack, top, List.mem_cons]
      constructor
      · rintro (rfl | ⟨mem, away⟩)
        · exact ⟨here, fresh⟩
        · exact ⟨mem, fun below => away (.inr below)⟩
      · rintro ⟨mem, away⟩
        by_cases eq : first = base
        · exact .inl eq
        · exact .inr ⟨mem, not_or.mpr ⟨Ne.symm eq, away⟩⟩
    · rw [accounted.away, top]
      exact fun handed => handed.2 List.mem_cons_self

theorem allocate?_eq_none_iff (accounted : Accounted l history p) :
    p.allocate? = none ↔ ∀ base ∈ l.frames, HandedOut l history base := by
  cases top : p.stack with
  | nil =>
    refine iff_of_true (by simp only [FramePool.allocate?, top]) fun base mem => ?_
    rw [accounted.away, top]
    exact ⟨mem, List.not_mem_nil⟩
  | cons first rest =>
    obtain ⟨q, taken, -⟩ := accounted.sound.allocate? top
    obtain ⟨-, here, free⟩ := accounted.allocate? taken
    refine iff_of_false (by simp [taken]) fun all => free (all first here)

/-- An address that is given back takes back the frame that it lies in, if that is handed out, and no other frame. -/
theorem release (accounted : Accounted l history p) (addr : UInt64) :
    Accounted l (history ++ [.released addr]) (p.release addr) := by
  obtain rfl := accounted.layout
  rcases accounted.sound.release_cases addr with ⟨inside, -, restacked⟩ | ⟨refused, rejects⟩
  · refine ⟨restacked.layout, restacked.sound, fun base => ?_⟩
    rw [handedOut_released_iff, accounted.away, restacked.stack, List.mem_cons, not_or, and_assoc, ne_comm,
      and_comm (a := base ∉ p.stack)]
  · rw [rejects]
    refine ⟨rfl, accounted.sound.reject, fun base => ?_⟩
    rw [handedOut_released_iff, accounted.away]
    refine and_iff_left_of_imp ?_
    rintro ⟨mem, away⟩ rfl
    -- A frame that is away is inside the umem and not free, so it is not refused.
    rcases refused with outside | free
    · exact UInt64.not_lt.mpr outside (Layout.frameBase_mem_frames_iff.mp mem)
    · exact away free

/-- The frames on the stack and those that are handed out are all frames. -/
theorem freeCount_add_ncard (accounted : Accounted l history p) :
    p.freeCount + {base | HandedOut l history base}.ncard = l.capacity := by
  have frames : p.stack.toFinset ⊆ l.frames.toFinset :=
    fun base mem => List.mem_toFinset.mpr
      ((accounted.layout ▸ accounted.sound.frames) (List.mem_toFinset.mp mem))
  have away : {base | HandedOut l history base} = ↑(l.frames.toFinset \ p.stack.toFinset) := by
    ext base
    simp [accounted.away]
  have total := Finset.card_sdiff_add_card_eq_card frames
  rw [List.toFinset_card_of_nodup l.nodup_frames, List.toFinset_card_of_nodup accounted.sound.nodup,
    Layout.length_frames] at total
  rw [away, Set.ncard_coe_finset, freeCount]
  omega

theorem step {event : PoolEvent} {q : FramePool} (accounted : Accounted l history p) (step : Step p event q) :
    Accounted l (history ++ [event]) q := by
  cases step with
  | allocated taken => exact (accounted.allocate? taken).1
  | exhausted empty =>
    exact ⟨accounted.layout, accounted.sound, fun base => handedOut_exhausted_iff.trans (accounted.away base)⟩
  | released addr => exact accounted.release addr

end Accounted

/-! ### Every history -/

namespace Lived

/-- After every history the frames that are handed out are those that are not on the stack. -/
theorem accounted (lived : Lived l history p) : Accounted l history p := by
  induction lived with
  | full => exact .full l
  | step _ step ih => exact ih.step step

/-- The last event has happened to a pool with the history before it. -/
theorem last {event : PoolEvent} {q : FramePool} (lived : Lived l (history ++ [event]) q) :
    ∃ p, Lived l history p ∧ Step p event q := by
  generalize eq : history ++ [event] = whole at lived
  cases lived with
  | full => simp at eq
  | step before step =>
    obtain ⟨rfl, same⟩ := List.append_inj' eq rfl
    cases List.singleton_inj.mp same
    exact ⟨_, before, step⟩

/-- What has happened first has happened to a pool too. -/
theorem of_append {later : List PoolEvent} (lived : Lived l (history ++ later) p) : ∃ q, Lived l history q := by
  induction later using List.reverseRecOn generalizing p with
  | nil =>
    rw [List.append_nil] at lived
    exact ⟨p, lived⟩
  | append_singleton later last ih =>
    rw [← List.append_assoc] at lived
    obtain ⟨q, before, -⟩ := lived.last
    exact ih before

/-- A frame that is handed out was not handed out before. -/
theorem not_handedOut {addr : UInt64} {later : List PoolEvent}
    (lived : Lived l (history ++ .allocated (some addr) :: later) p) : ¬ HandedOut l history addr := by
  rw [← List.singleton_append, ← List.append_assoc] at lived
  obtain ⟨q, answered⟩ := lived.of_append
  obtain ⟨p', before, step⟩ := answered.last
  cases step with
  | allocated taken => exact (before.accounted.allocate? taken).2.2

/-- Between two allocations that answer with the same frame an address inside it is given back. -/
theorem exists_released_between {between later : List PoolEvent} {addr : UInt64}
    (lived : Lived l
      (history ++ .allocated (some addr) :: (between ++ .allocated (some addr) :: later)) p) :
    ∃ other, .released other ∈ between ∧ l.frameBase other = addr := by
  by_contra none
  rw [← List.cons_append, ← List.append_assoc] at lived
  refine lived.not_handedOut ⟨history, between, rfl, fun other mem same => ?_⟩
  exact none ⟨other, mem, same⟩

end Lived

/-- No frame is handed out twice and none is lost, whatever is asked of a pool and whatever is given back to it. The free
stack holds starts of frames inside the umem, each of them once, and the flags mark exactly these frames. Every frame is
either on the stack or handed out, so that the two numbers add up to the capacity, and there is none to allocate exactly
when all are handed out. An address outside the umem or in a free frame is refused, which only counts the refusal; any
other puts its frame on top. Between two allocations of one frame an address inside it has been given back. -/
theorem handed_out_once (lived : Lived l history p) :
    (p.stack.Nodup ∧ ∀ addr ∈ p.stack, l.frameSize.toNat ∣ addr.toNat ∧ addr < l.size) ∧
      (p.isFree.size = l.capacity ∧ ∀ i < l.capacity, p.isFree[i]? = some true ↔ l.frameAt i ∈ p.stack) ∧
      (p.freeCount + {base | HandedOut l history base}.ncard = p.capacity ∧
        ∀ base, HandedOut l history base ↔ base ∈ l.frames ∧ base ∉ p.stack) ∧
      (∀ addr, p.release addr = { p with rejected := p.rejected + 1 } ↔
        l.size ≤ addr ∨ l.frameBase addr ∈ p.stack) ∧
      (∀ addr < l.size, l.frameBase addr ∉ p.stack →
        (p.release addr).stack = l.frameBase addr :: p.stack ∧ (p.release addr).rejected = p.rejected) ∧
      (p.allocate? = none ↔ ∀ base ∈ l.frames, HandedOut l history base) ∧
      ∀ (before between later : List PoolEvent) (addr : UInt64),
        history = before ++ .allocated (some addr) :: (between ++ .allocated (some addr) :: later) →
          ∃ other, .released other ∈ between ∧ l.frameBase other = addr := by
  have accounted := lived.accounted
  obtain rfl := accounted.layout
  have sound := accounted.sound
  refine ⟨⟨sound.nodup, fun addr mem => ?_⟩, ⟨sound.size, fun i lt => sound.getElem?_isFree lt⟩,
    ⟨accounted.freeCount_add_ncard, accounted.away⟩, sound.release_eq_reject_iff, fun addr inside free => ?_,
    accounted.allocate?_eq_none_iff, fun before between later addr eq => ?_⟩
  · exact Layout.dvd_and_lt_of_mem (sound.frames mem)
  · have restacked := sound.release (Layout.frameBase_mem_frames_iff.mpr inside) free
    exact ⟨restacked.stack, restacked.rejected⟩
  · exact (eq ▸ lived).exists_released_between

/-- Both frames are allocated. One is given back under an address in its middle, and again, and so is an address that is
in no frame: two refusals. Then there is one frame to allocate, and it is the one that was given back. -/
theorem handed_out_once_after_refusals :
    let l : Layout := ⟨2048, 2, by decide, by decide⟩
    let between : List PoolEvent :=
      [.allocated (some 0), .released 2304, .released 2304, .released 0xffffffffffffffff]
    let history := [] ++ .allocated (some 2048) :: (between ++ .allocated (some 2048) :: [])
    ∃ p, Lived l history p ∧ p.rejected = 2 ∧ p.allocate? = none ∧ {base | HandedOut l history base}.ncard = 2 ∧
      ∃ other, .released other ∈ between ∧ l.frameBase other = 2048 := by
  intro l between history
  have first := Lived.full.step (.allocated
    (show (full l).allocate? = some (2048, ⟨l, [0], #[true, false], 0⟩) by decide +kernel))
  have second := first.step (.allocated
    (show _ = some (0, (⟨l, [], #[false, false], 0⟩ : FramePool)) by decide +kernel))
  have given := ((second.step (.released _ 2304)).step (.released _ 2304)).step (.released _ 0xffffffffffffffff)
  have lived := given.step (.allocated
    (show _ = some (2048, (⟨l, [], #[false, false], 2⟩ : FramePool)) by decide +kernel))
  obtain ⟨-, -, ⟨total, -⟩, -, -, -, once⟩ := handed_out_once lived
  refine ⟨_, lived, rfl, rfl, ?_, once [] between [] 2048 rfl⟩
  exact (Nat.zero_add _).symm.trans total

end FramePool

end XdpEcho
