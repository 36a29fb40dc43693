import Mathlib.Data.Nat.ModEq
import XdpEcho.Ring.Basic

/-!
# Slots and pending entries

What a ring holds, as a list. Cursors wrap at 32 bits and slots are found by masking, so every statement here goes
through the number of an entry counted from a cursor, as a natural number.

* `Ring.Sized`, `Ring.Lawful` — the slots are as many as a power of two, and no more entries are pending than there
  are slots.
* `Ring.Sized.slot_add_inj` — entries less than a whole turn apart lie in different slots.
* `Ring.Sized.readFrom_writeFrom` — entries written behind others leave the others as they are.
* `Ring.Lawful.pending_push`, `Ring.Lawful.pending_consume` — publishing appends to the pending entries, releasing
  drops the oldest ones.
-/

namespace XdpEcho

namespace Ring

variable {α : Type}

/-! ### Masked numbers -/

/-- The number of slots is a power of two, and cursors can count that far. -/
def Sized (r : Ring α) : Prop :=
  ∃ k ≤ 31, r.slots.size = 2 ^ k

namespace Sized

variable {r : Ring α}

theorem slots_size_pos (sized : r.Sized) : 0 < r.slots.size := by
  obtain ⟨k, _, hk⟩ := sized
  rw [hk]
  exact Nat.two_pow_pos k

theorem slots_size_le (sized : r.Sized) : r.slots.size ≤ 2 ^ 31 := by
  obtain ⟨k, hk, eq⟩ := sized
  rw [eq]
  exact Nat.pow_le_pow_right (by decide) hk

theorem toNat_size (sized : r.Sized) : r.size.toNat = r.slots.size := by
  have le := sized.slots_size_le
  rw [Ring.size, UInt32.toNat_ofNat']
  omega

theorem slot_eq_mod (sized : r.Sized) (number : UInt32) :
    r.slot number = number.toNat % r.slots.size := by
  have ⟨k, _, eq⟩ := sized
  have pos := sized.slots_size_pos
  have mask : (r.size - 1).toNat = 2 ^ k - 1 := by
    have le := sized.slots_size_le
    rw [UInt32.toNat_sub, sized.toNat_size, UInt32.toNat_one, ← eq]
    omega
  rw [slot, UInt32.toNat_and, mask, Nat.and_two_pow_sub_one_eq_mod, eq]

theorem slot_lt (sized : r.Sized) (number : UInt32) : r.slot number < r.slots.size := by
  rw [sized.slot_eq_mod]
  exact Nat.mod_lt _ sized.slots_size_pos

/-- Wrapping at 32 bits does not move an entry to another slot. -/
theorem slot_add (sized : r.Sized) (number : UInt32) (i : Nat) :
    r.slot (number + .ofNat i) = (number.toNat + i) % r.slots.size := by
  have ⟨k, hk, eq⟩ := sized
  have divides : r.slots.size ∣ 2 ^ 32 := eq ▸ Nat.pow_dvd_pow 2 (by omega)
  rw [sized.slot_eq_mod, UInt32.toNat_add, UInt32.toNat_ofNat', Nat.add_mod_mod, Nat.mod_mod_of_dvd _ divides]

/-- Entries less than a whole turn apart lie in different slots. -/
theorem slot_add_inj (sized : r.Sized) {number : UInt32} {i j : Nat} (hi : i < r.slots.size)
    (hj : j < r.slots.size) (eq : r.slot (number + .ofNat i) = r.slot (number + .ofNat j)) : i = j := by
  rw [sized.slot_add, sized.slot_add] at eq
  have same : i ≡ j [MOD r.slots.size] := Nat.ModEq.add_left_cancel' number.toNat eq
  exact same.eq_of_lt_of_lt hi hj

end Sized

/-! ### Reading and writing -/

@[simp] theorem slots_size_write (r : Ring α) (number : UInt32) (entry : α) :
    (r.write number entry).slots.size = r.slots.size := by
  simp [write]

@[simp] theorem producer_write (r : Ring α) (number : UInt32) (entry : α) :
    (r.write number entry).producer = r.producer := rfl

@[simp] theorem consumer_write (r : Ring α) (number : UInt32) (entry : α) :
    (r.write number entry).consumer = r.consumer := rfl

@[simp] theorem size_write (r : Ring α) (number : UInt32) (entry : α) :
    (r.write number entry).size = r.size := by
  simp [Ring.size]

@[simp] theorem slot_write (r : Ring α) (number other : UInt32) (entry : α) :
    (r.write number entry).slot other = r.slot other := by
  simp [slot]

theorem Sized.of_write {r : Ring α} (sized : r.Sized) (number : UInt32) (entry : α) :
    (r.write number entry).Sized := by
  simpa [Sized] using sized

@[simp] theorem slots_size_writeFrom (r : Ring α) (number : UInt32) (entries : List α) :
    (r.writeFrom number entries).slots.size = r.slots.size := by
  induction entries generalizing r number with
  | nil => rfl
  | cons entry rest ih => simp [writeFrom, ih]

@[simp] theorem producer_writeFrom (r : Ring α) (number : UInt32) (entries : List α) :
    (r.writeFrom number entries).producer = r.producer := by
  induction entries generalizing r number with
  | nil => rfl
  | cons entry rest ih => simp [writeFrom, ih]

@[simp] theorem consumer_writeFrom (r : Ring α) (number : UInt32) (entries : List α) :
    (r.writeFrom number entries).consumer = r.consumer := by
  induction entries generalizing r number with
  | nil => rfl
  | cons entry rest ih => simp [writeFrom, ih]

theorem Sized.of_writeFrom {r : Ring α} (sized : r.Sized) (number : UInt32) (entries : List α) :
    (r.writeFrom number entries).Sized := by
  simpa [Sized] using sized

section Reading

variable [Inhabited α] {r : Ring α}

theorem Sized.read_write_self (sized : r.Sized) (number : UInt32) (entry : α) :
    (r.write number entry).read number = entry := by
  have lt := sized.slot_lt number
  rw [read, slot_write, write, Array.getD_eq_getD_getElem?, Array.getElem?_setIfInBounds, if_pos rfl, if_pos lt]
  rfl

theorem read_write_of_slot_ne {number other : UInt32} (ne : r.slot number ≠ r.slot other) (entry : α) :
    (r.write number entry).read other = r.read other := by
  rw [read, slot_write, write, Array.getD_eq_getD_getElem?, Array.getElem?_setIfInBounds, if_neg ne, read,
    Array.getD_eq_getD_getElem?]

@[simp] theorem length_readFrom (r : Ring α) (number : UInt32) (count : Nat) :
    (r.readFrom number count).length = count := by
  induction count generalizing number with
  | zero => rfl
  | succ count ih => simp [readFrom, ih]

theorem readFrom_add (r : Ring α) (number : UInt32) (a b : Nat) :
    r.readFrom number (a + b) = r.readFrom number a ++ r.readFrom (number + .ofNat a) b := by
  induction a generalizing number with
  | zero => simp [readFrom]
  | succ a ih =>
    have next : number + .ofNat (a + 1) = number + 1 + .ofNat a := by
      rw [Nat.add_comm, UInt32.ofNat_add, UInt32.add_assoc]
      rfl
    rw [show a + 1 + b = (a + b) + 1 by omega, readFrom, readFrom, ih, next, List.cons_append]

theorem readFrom_succ (r : Ring α) (number : UInt32) (count : Nat) :
    r.readFrom number (count + 1) = r.readFrom number count ++ [r.read (number + .ofNat count)] :=
  r.readFrom_add number count 1

theorem getElem?_readFrom (r : Ring α) (number : UInt32) {count i : Nat} (lt : i < count) :
    (r.readFrom number count)[i]? = some (r.read (number + .ofNat i)) := by
  obtain ⟨rest, rfl⟩ : ∃ rest, count = i + (rest + 1) := ⟨count - i - 1, by omega⟩
  rw [readFrom_add, List.getElem?_append_right (by simp)]
  simp [readFrom]

theorem take_readFrom (r : Ring α) (number : UInt32) {count n : Nat} (le : n ≤ count) :
    (r.readFrom number count).take n = r.readFrom number n := by
  obtain ⟨rest, rfl⟩ := Nat.exists_eq_add_of_le le
  rw [readFrom_add, List.take_left' (by simp)]

theorem drop_readFrom (r : Ring α) (number : UInt32) {count n : Nat} (le : n ≤ count) :
    (r.readFrom number count).drop n = r.readFrom (number + .ofNat n) (count - n) := by
  obtain ⟨rest, rfl⟩ := Nat.exists_eq_add_of_le le
  rw [readFrom_add, List.drop_left' (by simp), Nat.add_sub_cancel_left]

/-- Two rings that agree on a stretch of entries read the same there. -/
theorem readFrom_congr {s : Ring α} {number other : UInt32} {count : Nat}
    (agree : ∀ i < count, r.read (number + .ofNat i) = s.read (other + .ofNat i)) :
    r.readFrom number count = s.readFrom other count := by
  induction count with
  | zero => rfl
  | succ count ih =>
    rw [readFrom_succ, readFrom_succ, ih fun i lt => agree i (by omega), agree count (by omega)]

/-- A stretch of entries, from what each of them reads as. -/
theorem readFrom_eq {number : UInt32} {entries : List α}
    (read : ∀ {i : Nat} {x : α}, entries[i]? = some x → r.read (number + .ofNat i) = x) :
    r.readFrom number entries.length = entries := by
  refine List.ext_getElem (by simp) fun i lt lt' => ?_
  have here := getElem?_readFrom r number (by simpa using lt)
  rw [List.getElem?_eq_getElem lt, Option.some.injEq] at here
  rw [here, read (List.getElem?_eq_getElem lt')]

/-- Writing behind a stretch of entries leaves the stretch as it is, as long as it does not come around. -/
theorem Sized.readFrom_write (sized : r.Sized) {number : UInt32} {count i : Nat} (ge : count ≤ i)
    (lt : i < r.slots.size) (entry : α) :
    (r.write (number + .ofNat i) entry).readFrom number count = r.readFrom number count := by
  refine readFrom_congr fun j hj => read_write_of_slot_ne (fun eq => ?_) entry
  have := sized.slot_add_inj lt (by omega) eq
  omega

/-- Entries written behind others can be read behind them, and the others are as they were. -/
theorem Sized.readFrom_writeFrom (sized : r.Sized) (number : UInt32) {before : Nat} {entries : List α}
    (fits : before + entries.length ≤ r.slots.size) :
    (r.writeFrom (number + .ofNat before) entries).readFrom number (before + entries.length) =
      r.readFrom number before ++ entries := by
  induction entries generalizing r before with
  | nil => simp [Ring.writeFrom]
  | cons entry rest ih =>
    have lt : before < r.slots.size := by simp at fits; omega
    have next : number + .ofNat before + 1 = number + .ofNat (before + 1) := by
      rw [UInt32.ofNat_add, UInt32.add_assoc]
      rfl
    have fits' : before + 1 + rest.length ≤ (r.write (number + .ofNat before) entry).slots.size := by
      simp at fits ⊢
      omega
    have step := ih (sized.of_write _ _) fits'
    rw [Ring.writeFrom, next, List.length_cons, show before + (rest.length + 1) = before + 1 + rest.length by omega,
      step, readFrom_succ, sized.readFrom_write (Nat.le_refl _) lt, sized.read_write_self]
    simp

end Reading

/-! ### Pending entries -/

/-- A ring that both sides have used as they should. -/
structure Lawful (r : Ring α) : Prop where
  sized : r.Sized
  bounded : r.pendingCount.toNat ≤ r.slots.size

/-- The ring after its consumer has released the oldest entries. -/
def consume (r : Ring α) (count : UInt32) : Ring α :=
  { r with consumer := r.consumer + count }

@[simp] theorem slots_size_consume (r : Ring α) (count : UInt32) : (r.consume count).slots.size = r.slots.size := rfl

@[simp] theorem producer_consume (r : Ring α) (count : UInt32) : (r.consume count).producer = r.producer := rfl

@[simp] theorem consumer_consume (r : Ring α) (count : UInt32) :
    (r.consume count).consumer = r.consumer + count := rfl

@[simp] theorem size_consume (r : Ring α) (count : UInt32) : (r.consume count).size = r.size := rfl

@[simp] theorem slots_size_publish (r : Ring α) (count : UInt32) : (r.publish count).slots.size = r.slots.size := rfl

@[simp] theorem publish_zero (r : Ring α) : r.publish 0 = r := by
  rw [publish, UInt32.add_zero]

@[simp] theorem producer_publish (r : Ring α) (count : UInt32) :
    (r.publish count).producer = r.producer + count := rfl

@[simp] theorem consumer_publish (r : Ring α) (count : UInt32) : (r.publish count).consumer = r.consumer := rfl

@[simp] theorem size_publish (r : Ring α) (count : UInt32) : (r.publish count).size = r.size := rfl

@[simp] theorem consume_zero (r : Ring α) : r.consume 0 = r := by
  rw [consume, UInt32.add_zero]

theorem consume_consume (r : Ring α) (a b : UInt32) : (r.consume a).consume b = r.consume (a + b) := by
  rw [consume, consume, consume, UInt32.add_assoc]

theorem toNat_pendingCount (r : Ring α) :
    r.pendingCount.toNat = (2 ^ 32 - r.consumer.toNat + r.producer.toNat) % 2 ^ 32 :=
  UInt32.toNat_sub _ _

theorem producer_eq (r : Ring α) : r.producer = r.consumer + .ofNat r.pendingCount.toNat := by
  rw [pendingCount, UInt32.ofNat_toNat, UInt32.add_comm, UInt32.sub_add_cancel]

@[simp] theorem length_pending [Inhabited α] (r : Ring α) : r.pending.length = r.pendingCount.toNat := by
  simp [pending]

theorem pending_eq_nil_iff [Inhabited α] {r : Ring α} : r.pending = [] ↔ r.pendingCount = 0 := by
  rw [← List.length_eq_zero_iff, length_pending, ← UInt32.toNat_inj]
  rfl

theorem toNat_pendingCount_consume {r : Ring α} {count : UInt32} (le : count.toNat ≤ r.pendingCount.toNat) :
    (r.consume count).pendingCount.toNat = r.pendingCount.toNat - count.toNat := by
  have := r.producer.toNat_lt
  have := r.consumer.toNat_lt
  rw [toNat_pendingCount] at le ⊢
  rw [toNat_pendingCount, consumer_consume, producer_consume, UInt32.toNat_add]
  omega

theorem toNat_pendingCount_publish {r : Ring α} {count : UInt32}
    (fits : r.pendingCount.toNat + count.toNat < 2 ^ 32) :
    (r.publish count).pendingCount.toNat = r.pendingCount.toNat + count.toNat := by
  have := r.producer.toNat_lt
  have := r.consumer.toNat_lt
  rw [toNat_pendingCount] at fits ⊢
  rw [toNat_pendingCount, consumer_publish, producer_publish, UInt32.toNat_add]
  omega

@[simp] theorem readFrom_publish [Inhabited α] (r : Ring α) (count number : UInt32) (n : Nat) :
    (r.publish count).readFrom number n = r.readFrom number n :=
  readFrom_congr fun _ _ => rfl

@[simp] theorem readFrom_consume [Inhabited α] (r : Ring α) (count number : UInt32) (n : Nat) :
    (r.consume count).readFrom number n = r.readFrom number n :=
  readFrom_congr fun _ _ => rfl

@[simp] theorem pending_setFlags [Inhabited α] (r : Ring α) (flags : UInt32) :
    (r.setFlags flags).pending = r.pending :=
  readFrom_congr fun _ _ => rfl

theorem take_pending [Inhabited α] (r : Ring α) {n : Nat} (le : n ≤ r.pendingCount.toNat) :
    r.pending.take n = r.readFrom r.consumer n :=
  take_readFrom _ _ le

theorem getElem?_pending [Inhabited α] (r : Ring α) {i : Nat} (lt : i < r.pendingCount.toNat) :
    r.pending[i]? = some (r.read (r.consumer + .ofNat i)) :=
  getElem?_readFrom _ _ lt

/-- Publishing makes the entries behind the pending ones pending too. -/
theorem pending_publish [Inhabited α] {r : Ring α} {count : UInt32}
    (fits : r.pendingCount.toNat + count.toNat < 2 ^ 32) :
    (r.publish count).pending = r.pending ++ r.readFrom r.producer count.toNat := by
  rw [pending, toNat_pendingCount_publish fits, readFrom_add, consumer_publish, ← producer_eq, readFrom_publish,
    readFrom_publish, pending]

theorem pending_consume [Inhabited α] {r : Ring α} {count : UInt32} (le : count.toNat ≤ r.pendingCount.toNat) :
    (r.consume count).pending = r.pending.drop count.toNat := by
  rw [pending, toNat_pendingCount_consume le, pending, drop_readFrom _ _ le, UInt32.ofNat_toNat, readFrom_consume,
    consumer_consume]

theorem pending_consume_all [Inhabited α] (r : Ring α) : (r.consume r.pendingCount).pending = [] := by
  rw [pending_consume (Nat.le_refl _), ← length_pending, List.drop_length]

theorem pending_consume_ofNat [Inhabited α] {r : Ring α} {n : Nat} (le : n ≤ r.pendingCount.toNat) :
    (r.consume (.ofNat n)).pending = r.pending.drop n := by
  have toNat : (UInt32.ofNat n).toNat = n := by
    have := r.pendingCount.toNat_lt
    rw [UInt32.toNat_ofNat']
    omega
  rw [pending_consume (by omega), toNat]

namespace Lawful

variable {r : Ring α}

/-- The counts of a lawful ring stay far below where cursors wrap. -/
theorem toNat_add_lt (lawful : r.Lawful) {count : Nat} (room : r.pendingCount.toNat + count ≤ r.slots.size) :
    r.pendingCount.toNat + count < 2 ^ 32 := by
  have := lawful.sized.slots_size_le
  omega

theorem consume (lawful : r.Lawful) {count : UInt32} (le : count.toNat ≤ r.pendingCount.toNat) :
    (r.consume count).Lawful := by
  refine ⟨lawful.sized, ?_⟩
  have := lawful.bounded
  rw [toNat_pendingCount_consume le, slots_size_consume]
  omega

theorem publish (lawful : r.Lawful) {count : UInt32} (room : r.pendingCount.toNat + count.toNat ≤ r.slots.size) :
    (r.publish count).Lawful := by
  refine ⟨lawful.sized, ?_⟩
  rw [toNat_pendingCount_publish (lawful.toNat_add_lt room)]
  exact room

theorem write (lawful : r.Lawful) (number : UInt32) (entry : α) : (r.write number entry).Lawful :=
  ⟨lawful.sized.of_write number entry, by simpa [pendingCount] using lawful.bounded⟩

theorem writeFrom (lawful : r.Lawful) (number : UInt32) (entries : List α) :
    (r.writeFrom number entries).Lawful := by
  refine ⟨lawful.sized.of_writeFrom number entries, ?_⟩
  have same : (r.writeFrom number entries).pendingCount = r.pendingCount := by simp [pendingCount]
  rw [same, slots_size_writeFrom]
  exact lawful.bounded

end Lawful

/-- Every power of two is a size, wherever the cursors start. -/
theorem exists_create_eq_ok [Inhabited α] {size : UInt32} (power : size.toNat.isPowerOfTwo) (start : UInt32) :
    ∃ r : Ring α, create size start = .ok r :=
  ⟨blank size start, if_pos power⟩

theorem create_eq_ok [Inhabited α] {size start : UInt32} {r : Ring α} (created : Ring.create size start = .ok r) :
    r.Lawful ∧ r.pending = [] ∧ r.size = size := by
  rw [create] at created
  split at created
  next power =>
    cases created
    have none : (blank size start : Ring α).pendingCount = 0 := UInt32.sub_self (a := start)
    refine ⟨⟨?_, by rw [none]; exact Nat.zero_le _⟩, pending_eq_nil_iff.mpr none, by simp [Ring.size, blank]⟩
    obtain ⟨k, hk⟩ := power
    have lt := size.toNat_lt
    rw [hk] at lt
    have := (Nat.pow_lt_pow_iff_right (by decide : 1 < 2)).mp lt
    exact ⟨k, by omega, by simpa [blank] using hk⟩
  next => cases created

/-- The ring after its producer has written entries behind the published ones and published them. -/
def push (r : Ring α) (entries : List α) : Ring α :=
  (r.writeFrom r.producer entries).publish (.ofNat entries.length)

@[simp] theorem slots_size_push (r : Ring α) (entries : List α) : (r.push entries).slots.size = r.slots.size := by
  simp [push]

@[simp] theorem consumer_push (r : Ring α) (entries : List α) : (r.push entries).consumer = r.consumer := by
  simp [push]

@[simp] theorem push_nil (r : Ring α) : r.push [] = r :=
  r.publish_zero

theorem writeFrom_append (r : Ring α) (number : UInt32) (before after : List α) :
    r.writeFrom number (before ++ after) =
      (r.writeFrom number before).writeFrom (number + .ofNat before.length) after := by
  induction before generalizing r number with
  | nil => rw [List.nil_append, writeFrom, List.length_nil, show number + .ofNat 0 = number from UInt32.add_zero _]
  | cons entry rest ih =>
    rw [List.cons_append, writeFrom, writeFrom, ih, List.length_cons, Nat.add_comm, UInt32.ofNat_add, UInt32.add_assoc]
    rfl

theorem writeFrom_publish (r : Ring α) (count number : UInt32) (entries : List α) :
    (r.publish count).writeFrom number entries = (r.writeFrom number entries).publish count := by
  induction entries generalizing r number with
  | nil => rfl
  | cons entry rest ih => exact ih (r.write number entry) (number + 1)

/-- Entries that are pushed one after the other are pushed together. -/
theorem push_push (r : Ring α) (before after : List α) : (r.push before).push after = r.push (before ++ after) := by
  rw [push, push, writeFrom_publish, producer_publish, producer_writeFrom, push, writeFrom_append, List.length_append,
    UInt32.ofNat_add, publish, publish, publish, UInt32.add_assoc]

namespace Lawful

variable {r : Ring α} {entries : List α}

theorem toNat_length (lawful : r.Lawful) (room : r.pendingCount.toNat + entries.length ≤ r.slots.size) :
    (UInt32.ofNat entries.length).toNat = entries.length := by
  have := lawful.toNat_add_lt room
  rw [UInt32.toNat_ofNat']
  omega

theorem push (lawful : r.Lawful) (room : r.pendingCount.toNat + entries.length ≤ r.slots.size) :
    (r.push entries).Lawful := by
  refine (lawful.writeFrom r.producer entries).publish ?_
  rw [lawful.toNat_length room]
  simpa [pendingCount] using room

theorem toNat_pendingCount_push (lawful : r.Lawful)
    (room : r.pendingCount.toNat + entries.length ≤ r.slots.size) :
    (r.push entries).pendingCount.toNat = r.pendingCount.toNat + entries.length := by
  have same : (r.writeFrom r.producer entries).pendingCount = r.pendingCount := by simp [pendingCount]
  rw [Ring.push, toNat_pendingCount_publish, same, lawful.toNat_length room]
  rw [same, lawful.toNat_length room]
  exact lawful.toNat_add_lt room

/-- Entries that find room are appended to the pending ones, which keep their contents. -/
theorem pending_push [Inhabited α] (lawful : r.Lawful)
    (room : r.pendingCount.toNat + entries.length ≤ r.slots.size) :
    (r.push entries).pending = r.pending ++ entries := by
  have written := lawful.sized.readFrom_writeFrom r.consumer room
  rw [← producer_eq] at written
  rw [pending, lawful.toNat_pendingCount_push room, Ring.push, readFrom_publish, consumer_publish,
    consumer_writeFrom, written, pending]

end Lawful

end Ring

end XdpEcho
