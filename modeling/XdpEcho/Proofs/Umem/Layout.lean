import Mathlib.Algebra.Group.Nat.Defs
import Mathlib.Data.List.Nodup
import XdpEcho.Umem.Layout

/-!
# The frames of a umem

Addresses as natural numbers: the frame of an address is found by dividing by the frame size, and its start by
rounding down.

* `Layout.frames` — the start of every frame, lowest first.
* `Layout.toNat_frameBase`, `Layout.index?_eq_some_iff` — rounding down and dividing, without overflow.
* `Layout.index?_frameBase` — an address and the start of its frame have the same frame number.
* `Layout.mem_frames_iff` — an address starts a frame exactly when it is inside the umem and rounds down to itself.
-/

namespace XdpEcho

namespace Layout

variable {l : Layout} {addr : UInt64}

/-! ### Sizes -/

theorem frameSize_eq_two_pow (l : Layout) : ∃ k ≤ 12, l.frameSize.toNat = 2 ^ k := by
  obtain ⟨⟨k, eq⟩, -, most⟩ := l.frameSize_admissible
  have le : 2 ^ k ≤ 2 ^ 12 := eq ▸ most
  exact ⟨k, (Nat.pow_le_pow_iff_right (by decide)).mp le, eq⟩

theorem frameSize_pos (l : Layout) : 0 < l.frameSize.toNat := by
  obtain ⟨k, -, eq⟩ := l.frameSize_eq_two_pow
  rw [eq]
  exact Nat.two_pow_pos k

theorem frameSize_le (l : Layout) : l.frameSize.toNat ≤ 4096 :=
  l.frameSize_admissible.2.2

/-- A word can hold the length of what fits a frame. -/
theorem toNat_ofNat_length {l : Layout} {length : Nat} (fits : length ≤ l.frameSize.toNat) :
    (UInt32.ofNat length).toNat = length := by
  have := l.frameSize_le
  rw [UInt32.toNat_ofNat']
  omega

theorem capacity_lt (l : Layout) : l.capacity < 2 ^ 32 :=
  l.frameCount.toNat_lt

/-- The size of a umem does not overflow. -/
theorem toNat_size (l : Layout) : l.size.toNat = l.capacity * l.frameSize.toNat := by
  have le : l.frameSize.toNat * l.capacity ≤ 4096 * 2 ^ 32 :=
    Nat.mul_le_mul l.frameSize_le (Nat.le_of_lt l.capacity_lt)
  rw [size, UInt64.toNat_mul, UInt32.toNat_toUInt64, UInt32.toNat_toUInt64, Nat.mul_comm l.capacity]
  exact Nat.mod_eq_of_lt (Nat.lt_of_le_of_lt le (by decide))

/-! ### From addresses to frames -/

/-- Clearing the low bits of an address rounds it down to a multiple of the frame size. -/
theorem toNat_frameBase (l : Layout) (addr : UInt64) :
    (l.frameBase addr).toNat = addr.toNat / l.frameSize.toNat * l.frameSize.toNat := by
  obtain ⟨k, le, eq⟩ := l.frameSize_eq_two_pow
  have lt := addr.toNat_lt
  have pos := Nat.two_pow_pos k
  have small : 2 ^ k ≤ 2 ^ 12 := Nat.pow_le_pow_right (by decide) le
  have low : (l.frameSize.toUInt64 - 1).toNat = 2 ^ k - 1 := by
    rw [UInt64.toNat_sub, UInt32.toNat_toUInt64, UInt64.toNat_one, eq]
    omega
  have mask : (~~~(l.frameSize.toUInt64 - 1)).toNat = 2 ^ 64 - (2 ^ k - 1 + 1) := by
    rw [UInt64.toNat_not, low, UInt64.size]
    omega
  rw [frameBase, UInt64.toNat_and, mask, eq]
  refine Nat.eq_of_testBit_eq fun i => ?_
  rw [Nat.testBit_and, Nat.testBit_two_pow_sub_succ (by omega), Nat.testBit_two_pow_sub_one,
    Nat.testBit_mul_two_pow, Nat.testBit_div_two_pow]
  rcases Nat.lt_or_ge i k with below | above
  · simp [below, Nat.not_le_of_lt below]
  · rw [Nat.sub_add_cancel above]
    rcases Nat.lt_or_ge i 64 with inside | outside
    · simp [above, inside]
    · have none : addr.toNat.testBit i = false :=
        Nat.testBit_lt_two_pow (Nat.lt_of_lt_of_le lt (Nat.pow_le_pow_right (by decide) outside))
      simp [none]

theorem toNat_frameBase_le (l : Layout) (addr : UInt64) : (l.frameBase addr).toNat ≤ addr.toNat := by
  rw [toNat_frameBase]
  exact Nat.div_mul_le_self _ _

theorem lt_toNat_frameBase_add (l : Layout) (addr : UInt64) :
    addr.toNat < (l.frameBase addr).toNat + l.frameSize.toNat := by
  rw [toNat_frameBase]
  exact Nat.lt_div_mul_add l.frameSize_pos

/-- Rounding down twice is rounding down. -/
@[simp] theorem frameBase_frameBase (l : Layout) (addr : UInt64) :
    l.frameBase (l.frameBase addr) = l.frameBase addr := by
  rw [← UInt64.toNat_inj, toNat_frameBase, toNat_frameBase, Nat.mul_div_cancel _ l.frameSize_pos]

@[simp] theorem map_frameBase_frameBase (l : Layout) (addrs : List UInt64) :
    (addrs.map l.frameBase).map l.frameBase = addrs.map l.frameBase := by
  rw [List.map_map]
  exact List.map_congr_left fun addr _ => frameBase_frameBase l addr

/-- A frame starts at the base of an address that lies inside of it. -/
theorem frameBase_eq_of_le_lt {base : UInt64} (start : l.frameBase base = base) (le : base.toNat ≤ addr.toNat)
    (lt : addr.toNat < base.toNat + l.frameSize.toNat) : l.frameBase addr = base := by
  have pos := l.frameSize_pos
  rw [← start]
  rw [← start, toNat_frameBase] at le lt
  rw [← UInt64.toNat_inj, toNat_frameBase, toNat_frameBase]
  have same : addr.toNat / l.frameSize.toNat = base.toNat / l.frameSize.toNat := by
    refine Nat.div_eq_of_lt_le le ?_
    rwa [Nat.succ_mul]
  rw [same]

/-- Different frames do not overlap. -/
theorem frameBase_apart {other : UInt64} (ne : l.frameBase addr ≠ l.frameBase other) :
    (l.frameBase addr).toNat + l.frameSize.toNat ≤ (l.frameBase other).toNat ∨
      (l.frameBase other).toNat + l.frameSize.toNat ≤ (l.frameBase addr).toNat := by
  rcases Nat.lt_or_ge (l.frameBase addr).toNat (l.frameBase other).toNat with less | more
  · refine .inl (Nat.le_of_not_lt fun inside => ne ?_)
    rw [← frameBase_eq_of_le_lt (frameBase_frameBase l addr) (Nat.le_of_lt less) inside, frameBase_frameBase]
  · refine .inr (Nat.le_of_not_lt fun inside => ne ?_)
    rw [← frameBase_eq_of_le_lt (frameBase_frameBase l other) more inside, frameBase_frameBase]

/-- The frame number of an address is its quotient, which fits a frame number. -/
theorem index?_eq_some_iff {index : UInt32} :
    l.index? addr = some index ↔
      addr.toNat < l.capacity * l.frameSize.toNat ∧ index.toNat = addr.toNat / l.frameSize.toNat := by
  have fits (inside : addr.toNat < l.capacity * l.frameSize.toNat) :
      (addr / l.frameSize.toUInt64).toUInt32.toNat = addr.toNat / l.frameSize.toNat := by
    have lt := (Nat.div_lt_iff_lt_mul l.frameSize_pos).mpr inside
    rw [UInt64.toNat_toUInt32, UInt64.toNat_div, UInt32.toNat_toUInt64]
    exact Nat.mod_eq_of_lt (Nat.lt_trans lt l.capacity_lt)
  simp only [index?, UInt64.lt_iff_toNat_lt, toNat_size]
  split
  next inside => rw [Option.some.injEq, ← UInt32.toNat_inj, fits inside, eq_comm, and_iff_right inside]
  next outside => simp [outside]

/-- The addresses that have a frame number are those inside the umem. -/
theorem exists_index?_iff : (∃ index, l.index? addr = some index) ↔ addr < l.size := by
  simp [index?]

/-- Rounding down keeps the frame number, and the lack of one. -/
@[simp] theorem index?_frameBase (l : Layout) (addr : UInt64) : l.index? (l.frameBase addr) = l.index? addr := by
  have pos := l.frameSize_pos
  have quotient : (l.frameBase addr).toNat / l.frameSize.toNat = addr.toNat / l.frameSize.toNat := by
    rw [toNat_frameBase, Nat.mul_div_cancel _ pos]
  ext index
  rw [index?_eq_some_iff, index?_eq_some_iff, ← Nat.div_lt_iff_lt_mul pos, ← Nat.div_lt_iff_lt_mul pos, quotient]

theorem frameBase_lt_size_iff : l.frameBase addr < l.size ↔ addr < l.size := by
  rw [← exists_index?_iff, index?_frameBase, exists_index?_iff]

/-- Addresses have one frame number exactly when they have one base. -/
theorem index_eq_iff_frameBase_eq {other : UInt64} {index otherIndex : UInt32} (found : l.index? addr = some index)
    (found' : l.index? other = some otherIndex) : index = otherIndex ↔ l.frameBase addr = l.frameBase other := by
  rw [← UInt32.toNat_inj, ← UInt64.toNat_inj, (index?_eq_some_iff.mp found).2, (index?_eq_some_iff.mp found').2,
    toNat_frameBase, toNat_frameBase]
  exact ⟨fun eq => by rw [eq], Nat.eq_of_mul_eq_mul_right l.frameSize_pos⟩

theorem index_lt_capacity {index : UInt32} (found : l.index? addr = some index) : index.toNat < l.capacity := by
  obtain ⟨inside, eq⟩ := index?_eq_some_iff.mp found
  rw [eq]
  exact (Nat.div_lt_iff_lt_mul l.frameSize_pos).mpr inside

/-! ### All frames -/

/-- The address at which the frame of the given number starts. -/
def frameAt (l : Layout) (i : Nat) : UInt64 :=
  .ofNat (i * l.frameSize.toNat)

/-- The start of every frame, lowest first. -/
def frames (l : Layout) : List UInt64 :=
  (List.range l.capacity).map l.frameAt

theorem toNat_frameAt {i : Nat} (lt : i < l.capacity) : (l.frameAt i).toNat = i * l.frameSize.toNat := by
  have le : i * l.frameSize.toNat ≤ 2 ^ 32 * 4096 :=
    Nat.mul_le_mul (Nat.le_of_lt (Nat.lt_trans lt l.capacity_lt)) l.frameSize_le
  rw [frameAt, UInt64.toNat_ofNat']
  omega

@[simp] theorem length_frames (l : Layout) : l.frames.length = l.capacity := by
  simp [frames]

theorem nodup_frames (l : Layout) : l.frames.Nodup := by
  refine List.Nodup.map_on (fun i hi j hj eq => ?_) List.nodup_range
  rw [← UInt64.toNat_inj, toNat_frameAt (List.mem_range.mp hi), toNat_frameAt (List.mem_range.mp hj)] at eq
  exact Nat.eq_of_mul_eq_mul_right l.frameSize_pos eq

/-- An address starts a frame exactly when it is inside the umem and rounds down to itself. -/
theorem mem_frames_iff :
    addr ∈ l.frames ↔ addr.toNat < l.capacity * l.frameSize.toNat ∧ l.frameBase addr = addr := by
  have pos := l.frameSize_pos
  rw [frames, List.mem_map]
  constructor
  · rintro ⟨i, mem, rfl⟩
    have lt := List.mem_range.mp mem
    rw [← UInt64.toNat_inj, toNat_frameBase, toNat_frameAt lt, Nat.mul_div_cancel _ pos]
    exact ⟨Nat.mul_lt_mul_of_pos_right lt pos, rfl⟩
  · rintro ⟨inside, start⟩
    have lt := (Nat.div_lt_iff_lt_mul pos).mpr inside
    refine ⟨addr.toNat / l.frameSize.toNat, List.mem_range.mpr lt, ?_⟩
    rw [← UInt64.toNat_inj, toNat_frameAt lt, ← toNat_frameBase, start]

theorem frameBase_mem_frames_iff : l.frameBase addr ∈ l.frames ↔ addr < l.size := by
  rw [mem_frames_iff, and_iff_left (frameBase_frameBase l addr), ← toNat_size, ← UInt64.lt_iff_toNat_lt,
    frameBase_lt_size_iff]

theorem frameBase_of_mem (mem : addr ∈ l.frames) : l.frameBase addr = addr :=
  (mem_frames_iff.mp mem).2

theorem dvd_and_lt_of_mem (mem : addr ∈ l.frames) : l.frameSize.toNat ∣ addr.toNat ∧ addr < l.size := by
  obtain ⟨inside, start⟩ := mem_frames_iff.mp mem
  rw [UInt64.lt_iff_toNat_lt, toNat_size]
  refine ⟨?_, inside⟩
  rw [← start, toNat_frameBase]
  exact Nat.dvd_mul_left _ _

/-- The frame of a number has that number. -/
theorem index?_frameAt {i : Nat} (lt : i < l.capacity) : l.index? (l.frameAt i) = some (.ofNat i) := by
  have small := Nat.lt_trans lt l.capacity_lt
  rw [index?_eq_some_iff, toNat_frameAt lt, Nat.mul_div_cancel _ l.frameSize_pos, UInt32.toNat_ofNat',
    Nat.mod_eq_of_lt small]
  exact ⟨Nat.mul_lt_mul_of_pos_right lt l.frameSize_pos, rfl⟩

theorem frameAt_mem_frames {i : Nat} (lt : i < l.capacity) : l.frameAt i ∈ l.frames :=
  List.mem_map_of_mem (List.mem_range.mpr lt)

theorem map_frameBase_of_subset {addrs : List UInt64} (sub : addrs ⊆ l.frames) : addrs.map l.frameBase = addrs := by
  conv_rhs => rw [← List.map_id addrs]
  exact List.map_congr_left fun addr mem => frameBase_of_mem (sub mem)

/-- A frame lies inside the umem as a whole. -/
theorem toNat_add_frameSize_le (mem : addr ∈ l.frames) :
    addr.toNat + l.frameSize.toNat ≤ l.capacity * l.frameSize.toNat := by
  obtain ⟨i, hi, rfl⟩ := List.mem_map.mp mem
  have lt := List.mem_range.mp hi
  rw [toNat_frameAt lt, ← Nat.succ_mul]
  exact Nat.mul_le_mul_right _ lt

end Layout

end XdpEcho
