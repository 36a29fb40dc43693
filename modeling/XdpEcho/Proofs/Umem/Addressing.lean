import XdpEcho.Proofs.Umem.Layout
import XdpEcho.Umem.FramePool

/-!
# Addresses and frame numbers

An address is found from a frame number by multiplying, a frame number from an address by dividing, and the start of a
frame by clearing bits. The three agree in every layout, up to the largest, and for every address that fits a word,
inside the umem or not. A pool may therefore round an address down before it asks whether the address is inside.

* `Layout.ofSizes_eq_ok_iff`, `Layout.exists_ofSizes_iff` — of which sizes there is a layout, and which one.
* `Layout.address?_of_index?`, `Layout.index?_of_address?` — an address leads to the start of its frame and a frame
  number back to itself.
* `FramePool.release_eq_releaseUnrounded` — rounding down first makes no difference to a pool.
* `Layout.addressing_consistent` — all of this for any two sizes.
-/

namespace XdpEcho

/-- Half a page and a page are the only frame sizes. -/
theorem admissibleFrameSize_iff {size : UInt32} : AdmissibleFrameSize size ↔ size = 2048 ∨ size = 4096 := by
  constructor
  · rintro ⟨⟨k, eq⟩, least, most⟩
    have low : 2 ^ 11 ≤ 2 ^ k := eq ▸ least
    have high : 2 ^ k ≤ 2 ^ 12 := eq ▸ most
    rw [Nat.pow_le_pow_iff_right (by decide)] at low high
    rw [← UInt32.toNat_inj, ← UInt32.toNat_inj, eq]
    obtain rfl | rfl : k = 11 ∨ k = 12 := by omega
    · exact .inl rfl
    · exact .inr rfl
  · rintro (rfl | rfl) <;> decide

namespace Layout

variable {l : Layout} {frameSize frameCount index : UInt32} {addr base : UInt64}

/-! ### Layouts of two sizes -/

theorem ofSizes_eq_ok_iff :
    ofSizes frameSize frameCount = .ok l ↔ l.frameSize = frameSize ∧ l.frameCount = frameCount := by
  constructor
  · intro made
    rw [ofSizes] at made
    split at made
    next =>
      split at made
      next =>
        cases made
        exact ⟨rfl, rfl⟩
      next => cases made
    next => cases made
  · rintro ⟨rfl, rfl⟩
    rw [ofSizes, dif_pos l.frameSize_admissible, dif_pos l.frameCount_ne_zero]

theorem exists_ofSizes_iff :
    (∃ l, ofSizes frameSize frameCount = .ok l) ↔ AdmissibleFrameSize frameSize ∧ frameCount ≠ 0 := by
  constructor
  · rintro ⟨l, made⟩
    obtain ⟨rfl, rfl⟩ := ofSizes_eq_ok_iff.mp made
    exact ⟨l.frameSize_admissible, l.frameCount_ne_zero⟩
  · rintro ⟨size, count⟩
    exact ⟨⟨frameSize, frameCount, size, count⟩, ofSizes_eq_ok_iff.mpr ⟨rfl, rfl⟩⟩

/-! ### From frame numbers to addresses -/

theorem address?_eq_some_iff :
    l.address? index = some base ↔ index < l.frameCount ∧ l.frameAt index.toNat = base := by
  rw [address?, frameAt, UInt64.ofNat_mul, UInt64.ofNat_uInt32ToNat, UInt64.ofNat_uInt32ToNat]
  split <;> simp [*]

theorem exists_address?_iff : (∃ base, l.address? index = some base) ↔ index < l.frameCount := by
  simp [address?]

/-- The frame number of an address leads to the start of the frame that holds the address. -/
theorem address?_of_index? (found : l.index? addr = some index) : l.address? index = some (l.frameBase addr) := by
  have below := index_lt_capacity found
  refine address?_eq_some_iff.mpr ⟨below, ?_⟩
  rw [← UInt64.toNat_inj, toNat_frameAt below, toNat_frameBase, (index?_eq_some_iff.mp found).2]

/-- The address of a frame number leads back to the number. -/
theorem index?_of_address? (starts : l.address? index = some base) : l.index? base = some index := by
  obtain ⟨lt, rfl⟩ := address?_eq_some_iff.mp starts
  have below : index.toNat < l.capacity := lt
  rw [index?_frameAt below, UInt32.ofNat_toNat]

end Layout

/-! ### Rounding down before or after the check -/

namespace FramePool

/-- Gives back the frame that holds the address, but looks the address up as it is given. Only what goes on the stack
is rounded down. -/
def releaseUnrounded (p : FramePool) (addr : UInt64) : FramePool :=
  match p.layout.index? addr with
  | none => p.reject
  | some index =>
    if p.isFree.getD index.toNat false then p.reject
    else { p with stack := p.layout.frameBase addr :: p.stack, isFree := p.isFree.setIfInBounds index.toNat true }

theorem release_eq_releaseUnrounded (p : FramePool) (addr : UInt64) : p.release addr = p.releaseUnrounded addr := by
  rw [release, Layout.index?_frameBase]
  rfl

end FramePool

namespace Layout

/-- Of any number of frames but zero there is a layout, when a frame is half a page or a page. Its size is the product of
the two, with no overflow. The addresses below that product, and no others, have a frame number; it is the whole quotient
and less than the number of frames, and the address of that frame is the start of the frame that holds the address. Every
address, also one outside the umem, lies less than a frame above where it is rounded down to, rounding down twice is
rounding down once, and it never leads into the umem or out of it, so that a pool may do it before it asks whether the
address is inside. The numbers below the number of frames, and no others, have an address; it is the whole product, and
it has that frame number. -/
theorem addressing_consistent (frameSize frameCount : UInt32) :
    ((∃ l, ofSizes frameSize frameCount = .ok l) ↔ (frameSize = 2048 ∨ frameSize = 4096) ∧ frameCount ≠ 0) ∧
    ∀ l, ofSizes frameSize frameCount = .ok l →
      l.size.toNat = frameSize.toNat * frameCount.toNat ∧
      (∀ addr,
        ((∃ index, l.index? addr = some index) ↔ addr.toNat < frameSize.toNat * frameCount.toNat) ∧
        (∀ index, l.index? addr = some index →
          index < frameCount ∧ index.toNat = addr.toNat / frameSize.toNat ∧
          l.address? index = some (l.frameBase addr)) ∧
        ((l.frameBase addr).toNat ≤ addr.toNat ∧ addr.toNat < (l.frameBase addr).toNat + frameSize.toNat) ∧
        l.frameBase (l.frameBase addr) = l.frameBase addr ∧
        (l.frameBase addr < l.size ↔ addr < l.size) ∧
        ∀ p : FramePool, p.layout = l → p.release addr = p.releaseUnrounded addr) ∧
      ∀ index,
        ((∃ base, l.address? index = some base) ↔ index < frameCount) ∧
        ∀ base, l.address? index = some base →
          base.toNat = index.toNat * frameSize.toNat ∧ l.index? base = some index := by
  refine ⟨by rw [exists_ofSizes_iff, admissibleFrameSize_iff], fun l made => ?_⟩
  obtain ⟨rfl, rfl⟩ := ofSizes_eq_ok_iff.mp made
  have size : l.size.toNat = l.frameSize.toNat * l.frameCount.toNat := l.toNat_size.trans (Nat.mul_comm _ _)
  refine ⟨size, fun addr => ⟨?_, fun index found => ?_, ?_, ?_, ?_, ?_⟩, fun index => ⟨?_, fun base starts => ?_⟩⟩
  · rw [exists_index?_iff, UInt64.lt_iff_toNat_lt, size]
  · exact ⟨index_lt_capacity found, (index?_eq_some_iff.mp found).2, address?_of_index? found⟩
  · exact ⟨l.toNat_frameBase_le addr, l.lt_toNat_frameBase_add addr⟩
  · exact l.frameBase_frameBase addr
  · exact frameBase_lt_size_iff
  · exact fun p _ => p.release_eq_releaseUnrounded addr
  · exact exists_address?_iff
  · obtain ⟨lt, rfl⟩ := address?_eq_some_iff.mp starts
    exact ⟨toNat_frameAt lt, index?_of_address? starts⟩

/-- The largest umem there is. Its last byte is in its last frame, the next byte is in no frame, and the last address of
all is outside, also rounded down, so that a pool refuses it. -/
theorem addressing_consistent_of_largest :
    let l : Layout := ⟨4096, 0xffffffff, by decide, by decide⟩
    let p := FramePool.full l
    ofSizes 4096 0xffffffff = .ok l ∧
      l.index? 0xfffffffefff = some 0xfffffffe ∧
      l.address? 0xfffffffe = some 0xfffffffe000 ∧
      l.index? 0xfffffffe000 = some 0xfffffffe ∧
      l.index? 0xffffffff000 = none ∧
      ¬ l.frameBase 0xffffffffffffffff < l.size ∧
      p.release 0xffffffffffffffff = p.reject := by
  intro l p
  have made : ofSizes 4096 0xffffffff = .ok l := by decide
  obtain ⟨-, addresses, numbers⟩ := (addressing_consistent 4096 0xffffffff).2 l made
  obtain ⟨-, agrees, -⟩ := addresses 0xfffffffefff
  obtain ⟨-, -, -, -, inside_iff, same⟩ := addresses 0xffffffffffffffff
  have found : l.index? 0xfffffffefff = some 0xfffffffe := by decide
  have base : l.frameBase 0xfffffffefff = 0xfffffffe000 := by decide
  have starts : l.address? 0xfffffffe = some 0xfffffffe000 := base ▸ (agrees _ found).2.2
  have outside : l.index? 0xffffffffffffffff = none := by decide
  refine ⟨made, found, starts, ((numbers _).2 _ starts).2, by decide, mt inside_iff.mp (by decide), ?_⟩
  have unfound : p.layout.index? 0xffffffffffffffff = none := outside
  rw [same p rfl, FramePool.releaseUnrounded, unfound]

end Layout

end XdpEcho
