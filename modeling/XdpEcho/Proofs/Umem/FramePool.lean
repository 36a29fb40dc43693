import Mathlib.Data.List.Nodup
import Mathlib.Data.List.Perm.Subperm
import XdpEcho.Proofs.Umem.Layout
import XdpEcho.Umem.FramePool

/-!
# The free stack

What a pool does, as operations on its stack. The flags by which a pool recognises a free frame say the same as the
stack, so under the invariant a pool is known by its stack and its count of refusals.

* `FramePool.Sound` — the invariant: frames, each of them once, and flags that agree.
* `FramePool.Sound.allocateUpTo` — frames are taken off the top.
* `FramePool.Sound.release`, `FramePool.release_refused` — a frame that is away is put on top, anything else is
  refused.
* `FramePool.Sound.releaseAll` — different frames that are away are put on top one after the other.
* `FramePool.Sound.release_cases`, `FramePool.Sound.releaseAll_counted` — what becomes of any addresses at all that are
  given back.
-/

namespace XdpEcho

namespace FramePool

/-- The stack holds frames, each of them once, and the flags tell which ones. -/
structure Sound (p : FramePool) : Prop where
  nodup : p.stack.Nodup
  frames : p.stack ⊆ p.layout.frames
  size : p.isFree.size = p.layout.capacity
  flags : ∀ {addr : UInt64} {index : UInt32}, p.layout.index? addr = some index →
    (p.isFree.getD index.toNat false = true ↔ p.layout.frameBase addr ∈ p.stack)

/-- A sound pool that differs from another one in its stack only. -/
structure Restacked (p q : FramePool) (stack : List UInt64) : Prop where
  sound : q.Sound
  layout : q.layout = p.layout
  rejected : q.rejected = p.rejected
  stack : q.stack = stack

variable {p q : FramePool} {l : Layout}

theorem Restacked.refl (sound : p.Sound) : Restacked p p p.stack :=
  ⟨sound, rfl, rfl, rfl⟩

theorem Restacked.trans {r : FramePool} {stack stack' : List UInt64} (first : Restacked p q stack)
    (second : Restacked q r stack') : Restacked p r stack' :=
  ⟨second.sound, second.layout.trans first.layout, second.rejected.trans first.rejected, second.stack⟩

/-- What is taken off the top and what is left of the stack fit together, so the one tells the other. -/
theorem Restacked.of_drop {n : Nat} (restacked : Restacked p q (p.stack.drop n)) :
    Restacked p q (p.stack.drop (p.stack.take n).length) ∧ p.stack.take n = p.stack.take (p.stack.take n).length := by
  have left : p.stack.drop (p.stack.take n).length = p.stack.drop n := by
    rw [List.drop_eq_drop_iff, List.length_take]
    omega
  refine ⟨?_, ?_⟩
  · rw [left]
    exact restacked
  · rw [List.take_eq_take_iff, List.length_take]
    omega

/-! ### A full pool -/

theorem addressesBelow_eq (l : Layout) (n : Nat) :
    addressesBelow l n = ((List.range n).map l.frameAt).reverse := by
  induction n with
  | zero => rfl
  | succ n ih =>
    have top : UInt64.ofNat n * l.frameSize.toUInt64 = l.frameAt n := by
      rw [Layout.frameAt, UInt64.ofNat_mul, UInt64.ofNat_uInt32ToNat]
    rw [addressesBelow, ih, List.range_succ, List.map_append, List.reverse_append, top]
    rfl

theorem stack_full (l : Layout) : (full l).stack = l.frames.reverse :=
  addressesBelow_eq l l.capacity

theorem sound_full (l : Layout) : (full l).Sound where
  nodup := by
    rw [stack_full, List.nodup_reverse]
    exact l.nodup_frames
  frames := by
    rw [stack_full]
    exact List.reverse_subset.mpr (List.Subset.refl _)
  size := Array.size_replicate
  flags {addr index} found := by
    have lt : index.toNat < l.capacity := Layout.index_lt_capacity found
    have mem : l.frameBase addr ∈ l.frames :=
      Layout.frameBase_mem_frames_iff.mpr (Layout.exists_index?_iff.mp ⟨index, found⟩)
    rw [stack_full, List.mem_reverse]
    simp [full, lt, mem]

/-! ### Taking frames -/

/-- No more frames are taken than are asked for. -/
theorem length_allocateUpTo_le (n : Nat) (p : FramePool) : (allocateUpTo n p).1.length ≤ n := by
  induction n generalizing p with
  | zero => exact Nat.le_refl _
  | succ n ih =>
    rw [allocateUpTo]
    cases p.allocate? with
    | none => exact Nat.zero_le _
    | some taken => exact Nat.succ_le_succ (ih taken.2)

/-- Frames that are taken for a number of slots fit in them, also when they are counted as a word. -/
theorem ofNat_length_allocateUpTo_le (p : FramePool) (room most : UInt32) :
    UInt32.ofNat (p.allocateUpTo (min room most).toNat).1.length ≤ room := by
  have le := length_allocateUpTo_le (min room most).toNat p
  have lt := room.toNat_lt
  rw [UInt32.toNat_min] at le ⊢
  rw [UInt32.le_iff_toNat_le, UInt32.toNat_ofNat']
  omega

namespace Sound

/-- The flag of a frame number says whether that frame is on the stack. -/
theorem getElem?_isFree (sound : p.Sound) {i : Nat} (lt : i < p.layout.capacity) :
    p.isFree[i]? = some true ↔ p.layout.frameAt i ∈ p.stack := by
  have flags := sound.flags (Layout.index?_frameAt lt)
  have toNat : (UInt32.ofNat i).toNat = i := by
    rw [UInt32.toNat_ofNat', Nat.mod_eq_of_lt (Nat.lt_trans lt p.layout.capacity_lt)]
  rw [toNat, Layout.frameBase_of_mem (Layout.frameAt_mem_frames lt)] at flags
  have some : p.isFree[i]? = .some (p.isFree.getD i false) := by
    rw [Array.getD_eq_getD_getElem?, Array.getElem?_eq_getElem (sound.size ▸ lt), Option.getD_some]
  rw [some, Option.some.injEq, flags]

theorem allocate? (sound : p.Sound) {addr : UInt64} {rest : List UInt64} (top : p.stack = addr :: rest) :
    ∃ q, p.allocate? = some (addr, q) ∧ Restacked p q rest := by
  have nodup := top ▸ sound.nodup
  have frames := top ▸ sound.frames
  obtain ⟨here, below⟩ := List.cons_subset.mp frames
  obtain ⟨index, found⟩ := Layout.exists_index?_iff.mpr (Layout.dvd_and_lt_of_mem here).2
  refine ⟨{ p with stack := rest, isFree := p.isFree.setIfInBounds index.toNat false }, ?_,
    ⟨?_, below, ?_, ?_⟩, rfl, rfl, rfl⟩
  · simp only [FramePool.allocate?, top, found]
  · exact (List.nodup_cons.mp nodup).2
  · simpa using sound.size
  · intro other index' found'
    have old := sound.flags found'
    have same := Layout.index_eq_iff_frameBase_eq found found'
    rw [Layout.frameBase_of_mem here] at same
    have size := Layout.index_lt_capacity found
    rw [← sound.size] at size
    rw [top, List.mem_cons] at old
    simp only [Array.getD_eq_getD_getElem?, Array.getElem?_setIfInBounds] at old ⊢
    by_cases eq : index = index'
    · -- The frame that leaves is not on the rest of the stack.
      subst eq
      rw [← same.mp rfl]
      simpa [size] using (List.nodup_cons.mp nodup).1
    · have ne : index.toNat ≠ index'.toNat := fun h => eq (UInt32.toNat_inj.mp h)
      have apart : p.layout.frameBase other ≠ addr := fun h => eq (same.mpr h.symm)
      rw [if_neg ne, old]
      simp [apart]

/-- Frames are taken off the top, as many as there are. -/
theorem allocateUpTo (sound : p.Sound) (n : Nat) :
    ∃ q, p.allocateUpTo n = (p.stack.take n, q) ∧ Restacked p q (p.stack.drop n) := by
  induction n generalizing p with
  | zero => exact ⟨p, rfl, Restacked.refl sound⟩
  | succ n ih =>
    rw [FramePool.allocateUpTo]
    cases top : p.stack with
    | nil =>
      have none : p.allocate? = none := by simp only [FramePool.allocate?, top]
      rw [none]
      exact ⟨p, rfl, sound, rfl, rfl, top⟩
    | cons addr rest =>
      obtain ⟨p', taken, restacked⟩ := sound.allocate? top
      obtain ⟨q, more, restacked'⟩ := ih restacked.sound
      rw [taken]
      simp only [more, restacked.stack]
      rw [restacked.stack] at restacked'
      exact ⟨q, rfl, restacked.trans restacked'⟩

/-! ### Giving frames back -/

/-- A frame that is away is put on top, under any address inside it. -/
theorem release (sound : p.Sound) {addr : UInt64} (mem : p.layout.frameBase addr ∈ p.layout.frames)
    (away : p.layout.frameBase addr ∉ p.stack) :
    Restacked p (p.release addr) (p.layout.frameBase addr :: p.stack) := by
  obtain ⟨index, found⟩ := Layout.exists_index?_iff.mpr (Layout.frameBase_mem_frames_iff.mp mem)
  have taken : p.isFree.getD index.toNat false ≠ true := by
    rw [Ne, sound.flags found]
    exact away
  simp only [FramePool.release, Layout.index?_frameBase, found]
  rw [if_neg taken]
  refine ⟨⟨List.nodup_cons.mpr ⟨away, sound.nodup⟩, List.cons_subset.mpr ⟨mem, sound.frames⟩, ?_, ?_⟩, rfl, rfl, rfl⟩
  · simpa using sound.size
  · intro other index' found'
    have old := sound.flags found'
    have same := Layout.index_eq_iff_frameBase_eq found found'
    have size := Layout.index_lt_capacity found
    rw [← sound.size] at size
    simp only [Array.getD_eq_getD_getElem?, Array.getElem?_setIfInBounds, List.mem_cons] at old ⊢
    by_cases eq : index = index'
    · subst eq
      rw [← same.mp rfl]
      simp [size]
    · have ne : index.toNat ≠ index'.toNat := fun h => eq (UInt32.toNat_inj.mp h)
      have apart : p.layout.frameBase other ≠ p.layout.frameBase addr := fun h => eq (same.mpr h.symm)
      rw [if_neg ne, old]
      simp [apart]

/-- Different frames that are away are put on top one after the other. -/
theorem releaseAll (sound : p.Sound) {addrs : List UInt64} (nodup : (addrs.map p.layout.frameBase).Nodup)
    (frames : addrs.map p.layout.frameBase ⊆ p.layout.frames)
    (away : ∀ base ∈ addrs.map p.layout.frameBase, base ∉ p.stack) :
    Restacked p (p.releaseAll addrs) ((addrs.map p.layout.frameBase).reverse ++ p.stack) := by
  induction addrs generalizing p with
  | nil => exact Restacked.refl sound
  | cons addr rest ih =>
    rw [List.map_cons] at nodup frames away
    obtain ⟨fresh, nodup⟩ := List.nodup_cons.mp nodup
    obtain ⟨here, frames⟩ := List.cons_subset.mp frames
    have first := sound.release here (away _ List.mem_cons_self)
    have after : (p.release addr).releaseAll rest = p.releaseAll (addr :: rest) := rfl
    rw [← after, List.map_cons, List.reverse_cons, List.append_assoc, List.singleton_append, ← first.stack,
      ← first.layout]
    refine first.trans (ih first.sound ?_ ?_ ?_)
    · rwa [first.layout]
    · rwa [first.layout]
    · rw [first.layout, first.stack]
      intro base mem
      rw [List.mem_cons, not_or]
      exact ⟨fun eq => fresh (eq ▸ mem), away base (List.mem_cons_of_mem _ mem)⟩

end Sound

/-- Anything but a frame that is away is refused, and the refusal is counted. -/
theorem release_refused (sound : p.Sound) {addr : UInt64}
    (here : p.layout.frameBase addr ∈ p.layout.frames → p.layout.frameBase addr ∈ p.stack) :
    p.release addr = p.reject := by
  rw [FramePool.release, Layout.index?_frameBase]
  cases found : p.layout.index? addr with
  | none => rfl
  | some index =>
    have inside := Layout.exists_index?_iff.mp ⟨index, found⟩
    have free := (sound.flags found).mpr (here (Layout.frameBase_mem_frames_iff.mpr inside))
    simp [free]

/-- Giving back any address at all either puts the frame that it lies in on top or is refused. -/
theorem Sound.release_cases (sound : p.Sound) (addr : UInt64) :
    (addr < p.layout.size ∧ p.layout.frameBase addr ∉ p.stack ∧
        p.Restacked (p.release addr) (p.layout.frameBase addr :: p.stack)) ∨
      ((p.layout.size ≤ addr ∨ p.layout.frameBase addr ∈ p.stack) ∧ p.release addr = p.reject) := by
  rcases UInt64.lt_or_le addr p.layout.size with inside | outside
  · by_cases free : p.layout.frameBase addr ∈ p.stack
    · exact .inr ⟨.inr free, release_refused sound fun _ => free⟩
    · exact .inl ⟨inside, free, sound.release (Layout.frameBase_mem_frames_iff.mpr inside) free⟩
  · refine .inr ⟨.inl outside, release_refused sound fun mem => ?_⟩
    exact absurd (Layout.frameBase_mem_frames_iff.mp mem) (UInt64.not_lt.mpr outside)

theorem Sound.release_eq_reject_iff (sound : p.Sound) (addr : UInt64) :
    p.release addr = p.reject ↔ p.layout.size ≤ addr ∨ p.layout.frameBase addr ∈ p.stack := by
  rcases sound.release_cases addr with ⟨inside, away, restacked⟩ | ⟨refused, rejects⟩
  · refine iff_of_false (fun eq => ?_) (not_or.mpr ⟨UInt64.not_le.mpr inside, away⟩)
    have longer := congrArg (List.length ∘ stack) eq
    simp only [Function.comp_apply, restacked.stack, List.length_cons, reject] at longer
    omega
  · exact iff_of_true rejects refused

theorem Sound.reject (sound : p.Sound) : p.reject.Sound :=
  ⟨sound.nodup, sound.frames, sound.size, sound.flags⟩

/-- Giving back any addresses at all keeps the pool sound, and each of them is on the stack or counted as refused. -/
theorem Sound.releaseAll_counted (sound : p.Sound) (addrs : List UInt64) :
    (p.releaseAll addrs).Sound ∧ (p.releaseAll addrs).layout = p.layout ∧ ∃ refused ≤ addrs.length,
      (p.releaseAll addrs).rejected = p.rejected + .ofNat refused ∧
      (p.releaseAll addrs).freeCount + refused = p.freeCount + addrs.length := by
  induction addrs generalizing p with
  | nil => exact ⟨sound, rfl, 0, Nat.le_refl _, (UInt64.add_zero _).symm, rfl⟩
  | cons addr rest ih =>
    have after : p.releaseAll (addr :: rest) = (p.release addr).releaseAll rest := rfl
    rw [after, List.length_cons]
    rcases sound.release_cases addr with ⟨-, -, restacked⟩ | ⟨-, rejects⟩
    · obtain ⟨sound', layout, refused, le, rejected, count⟩ := ih restacked.sound
      refine ⟨sound', layout.trans restacked.layout, refused, by omega, ?_, ?_⟩
      · rw [rejected, restacked.rejected]
      · have longer := congrArg List.length restacked.stack
        simp only [freeCount, List.length_cons] at count longer ⊢
        omega
    · rw [rejects]
      obtain ⟨sound', layout, refused, le, rejected, count⟩ := ih sound.reject
      refine ⟨sound', layout, refused + 1, by omega, ?_, ?_⟩
      · rw [rejected, Nat.add_comm refused, UInt64.ofNat_add, ← UInt64.add_assoc]
        rfl
      · simp only [freeCount, FramePool.reject] at count ⊢
        omega

theorem Sound.freeCount_le (sound : p.Sound) : p.freeCount ≤ p.capacity := by
  have le := (sound.nodup.subperm sound.frames).length_le
  rwa [Layout.length_frames] at le

end FramePool

end XdpEcho
