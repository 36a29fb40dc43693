import XdpEcho.Proofs.Umem.Layout
import XdpEcho.Umem.Area

/-!
# What is in the frames

Frame memory as one list of bytes, in which writing replaces a stretch and leaves the rest as it is.

* `Area.Contains.content_write` — writing replaces exactly the bytes from the address on.
* `Area.Contains.read?_write_self` — what has been written can be read.
* `Area.read?_write_apart` — reading elsewhere gives what it gave before.
* `Area.size_zeroed` — the memory of a layout has room for its frames.
-/

namespace XdpEcho

namespace Area

variable {a : Area} {addr other : UInt64} {data : Bytes} {len : Nat}

/-- All bytes of the memory, the one at address zero first. -/
def content (a : Area) : Bytes := a.bytes.data.toList

@[simp] theorem length_content (a : Area) : a.content.length = a.size := by
  rw [content, Array.length_toList]
  rfl

theorem Contains.mono (inside : a.Contains addr len) {shorter : Nat} (le : shorter ≤ len) :
    a.Contains addr shorter :=
  Nat.le_trans (Nat.add_le_add_left le _) inside

theorem read?_eq (inside : a.Contains addr len) :
    a.read? addr len = some ((a.content.drop addr.toNat).take len) := by
  rw [read?, if_pos inside, ByteArray.data_extract, Array.toList_extract, List.extract_eq_take_drop,
    Nat.add_sub_cancel_left]
  rfl

theorem read?_eq_none_iff : a.read? addr len = none ↔ ¬ a.Contains addr len := by
  rw [read?]
  split <;> simp [*]

theorem length_of_read? (found : a.read? addr len = some data) : data.length = len := by
  by_cases inside : a.Contains addr len
  · rw [read?_eq inside, Option.some.injEq] at found
    have le : addr.toNat + len ≤ a.size := inside
    rw [← found, List.length_take, List.length_drop, length_content]
    omega
  · rw [read?_eq_none_iff.mpr inside] at found
    cases found

/-! ### Storing bytes -/

theorem size_store (bytes : ByteArray) (position : Nat) (data : Bytes) :
    (store bytes position data).size = bytes.size := by
  induction data generalizing bytes position with
  | nil => rfl
  | cons b rest ih => rw [store, ih, ByteArray.size_set!]

/-- Storing one byte after the other replaces a stretch. -/
theorem toList_store (bytes : ByteArray) (before data after : Bytes) (replaced : Bytes)
    (eq : bytes.data.toList = before ++ replaced ++ after) (same : replaced.length = data.length) :
    (store bytes before.length data).data.toList = before ++ data ++ after := by
  induction data generalizing bytes before replaced with
  | nil =>
    rw [store, eq, List.length_eq_zero_iff.mp same]
  | cons b rest ih =>
    obtain ⟨old, replaced, rfl⟩ := List.exists_cons_of_length_eq_add_one same
    have set : (bytes.set! before.length b).data.toList = before ++ [b] ++ replaced ++ after := by
      rw [ByteArray.set!, Array.set!_eq_setIfInBounds, Array.toList_setIfInBounds, eq, List.append_assoc,
        List.set_append_right _ _ (Nat.le_refl _), Nat.sub_self]
      simp
    have step := ih (bytes.set! before.length b) (before ++ [b]) replaced set (by simpa using same)
    rw [List.length_append] at step
    rw [store]
    simpa using step

@[simp] theorem size_write (a : Area) (addr : UInt64) (data : Bytes) : (a.write addr data).size = a.size := by
  rw [write, write?]
  split
  next => exact size_store a.bytes addr.toNat data
  next => rfl

@[simp] theorem contains_write_iff : (a.write addr data).Contains other len ↔ a.Contains other len := by
  rw [Contains, Contains, size_write]

theorem Contains.write? (inside : a.Contains addr data.length) :
    a.write? addr data = some (a.write addr data) := by
  rw [write, Area.write?, if_pos inside]
  rfl

/-- Writing replaces exactly the bytes from the address on. -/
theorem Contains.content_write (inside : a.Contains addr data.length) :
    (a.write addr data).content =
      a.content.take addr.toNat ++ data ++ a.content.drop (addr.toNat + data.length) := by
  have le : addr.toNat + data.length ≤ a.size := inside
  have front : (a.content.take addr.toNat).length = addr.toNat := by
    rw [List.length_take, length_content]
    omega
  have split : a.bytes.data.toList = a.content.take addr.toNat ++ (a.content.drop addr.toNat).take data.length ++
      a.content.drop (addr.toNat + data.length) := by
    rw [List.append_assoc, ← List.drop_drop, List.take_append_drop, List.take_append_drop]
    rfl
  have stored := toList_store a.bytes _ data _ _ split (by
    rw [List.length_take, List.length_drop, length_content]
    omega)
  rw [front] at stored
  rw [Area.write, Area.write?, if_pos inside]
  exact stored

/-- What has been written can be read, as a whole or in part. -/
theorem Contains.read?_write_self (inside : a.Contains addr data.length) (le : len ≤ data.length) :
    (a.write addr data).read? addr len = some (data.take len) := by
  have front : (a.content.take addr.toNat).length = addr.toNat := by
    have : addr.toNat + data.length ≤ a.size := inside
    rw [List.length_take, length_content]
    omega
  rw [read?_eq (contains_write_iff.mpr (inside.mono le)), inside.content_write, List.append_assoc,
    List.drop_left' front, List.take_append_of_le_length le]

/-- Reading elsewhere gives what it gave before. -/
theorem read?_write_apart
    (apart : addr.toNat + data.length ≤ other.toNat ∨ other.toNat + len ≤ addr.toNat) :
    (a.write addr data).read? other len = a.read? other len := by
  by_cases reads : a.Contains other len
  · by_cases inside : a.Contains addr data.length
    · have le : addr.toNat + data.length ≤ a.size := inside
      rw [read?_eq (contains_write_iff.mpr reads), read?_eq reads, inside.content_write, Option.some.injEq]
      apply List.ext_getElem?
      intro i
      rw [List.getElem?_take, List.getElem?_take]
      split
      next lt =>
        rw [List.getElem?_drop, List.getElem?_drop]
        rcases apart with behind | before
        · have length : (a.content.take addr.toNat ++ data).length = addr.toNat + data.length := by
            rw [List.length_append, List.length_take, length_content]
            omega
          rw [List.getElem?_append_right (by omega), length, List.getElem?_drop]
          congr 1
          omega
        · have length : (a.content.take addr.toNat).length = addr.toNat := by
            rw [List.length_take, length_content]
            omega
          rw [List.append_assoc, List.getElem?_append_left (by omega), List.getElem?_take, if_pos (by omega)]
      next => rfl
    · rw [write, write?, if_neg inside]
      rfl
  · rw [read?_eq_none_iff.mpr reads, read?_eq_none_iff.mpr (by rwa [contains_write_iff])]

/-! ### Zeroed memory -/

theorem size_zeroBlock (k : Nat) : (zeroBlock k).size = 2 ^ k := by
  induction k with
  | zero => rfl
  | succ k ih =>
    rw [zeroBlock, ByteArray.size_append, ih]
    omega

/-- Appending a block of some size again and again. -/
theorem size_fold_append (block start : ByteArray) (n : Nat) :
    (n.fold (fun _ _ (acc : ByteArray) => acc ++ block) start).size = start.size + n * block.size := by
  induction n with
  | zero => simp
  | succ n ih => rw [Nat.fold_succ, ByteArray.size_append, ih, Nat.succ_mul, Nat.add_assoc]

theorem size_fold_push (start : ByteArray) (n : Nat) :
    (n.fold (fun _ _ (acc : ByteArray) => acc.push 0) start).size = start.size + n := by
  induction n with
  | zero => rfl
  | succ n ih => rw [Nat.fold_succ, ByteArray.size_push, ih, Nat.add_assoc]

/-- The memory of a layout has room for its frames. -/
theorem size_zeroed (l : Layout) : (zeroed l).size = l.capacity * l.frameSize.toNat := by
  have none : (ByteArray.emptyWithCapacity l.size.toNat).size = 0 := rfl
  rw [size, zeroed, zeroBytes, size_fold_push, size_fold_append, none, size_zeroBlock, Layout.toNat_size]
  omega

end Area

end XdpEcho
