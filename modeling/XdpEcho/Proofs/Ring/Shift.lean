import XdpEcho.Proofs.Ring.Views

/-!
# Rings whose cursors stand elsewhere

Cursors are compared, subtracted and masked, and nothing else is done with them. Two rings that hold the same entries
under numbers that differ by a constant stay so when both sides do the same on both of them, and neither side can tell
which of the two it is working on. The constant may be anything, and where the cursors wrap does not matter.

* `Ring.ShiftedBy` — the two rings.
* `Ring.ShiftedBy.write`, `Ring.ShiftedBy.readFrom` — slots.
* `Producer.reserve_shift`, `Producer.push_shift`, `Consumer.peek_shift`, `Consumer.take_shift` — what each side does.
-/

namespace XdpEcho

variable {α : Type} {d : UInt32}

/-- How far two cursors are apart says nothing about where they stand. -/
theorem distance_shift (a b d : UInt32) : a + d - (b + d) = a - b := by
  rw [UInt32.sub_eq_iff_eq_add, ← UInt32.add_assoc, UInt32.sub_add_cancel]

namespace Ring

/-- The same ring but that the entries have other numbers, all of them larger by the same amount. -/
structure ShiftedBy [Inhabited α] (d : UInt32) (r r' : Ring α) : Prop where
  sized : r.Sized
  slots : r'.slots.size = r.slots.size
  read : ∀ number : UInt32, r'.read (number + d) = r.read number
  producer : r'.producer = r.producer + d
  consumer : r'.consumer = r.consumer + d
  flags : r'.flags = r.flags

/-- Writing a slot is seen under every number that the slot has. -/
theorem Sized.read_write_of_slot_eq [Inhabited α] {r : Ring α} (sized : r.Sized) {number other : UInt32}
    (same : r.slot number = r.slot other) (entry : α) : (r.write number entry).read other = entry := by
  have self := sized.read_write_self number entry
  rwa [read, slot_write, same, ← slot_write r number other entry] at self

section Blank

variable [Inhabited α] {size : UInt32}

theorem read_blank (size start number : UInt32) : (blank size start : Ring α).read number = default := by
  rw [read, blank, Array.getD_eq_getD_getElem?, Array.getElem?_replicate]
  split
  next => rfl
  next => rfl

/-- Blank rings differ in where their cursors stand, and in nothing else. -/
theorem shiftedBy_blank (power : size.toNat.isPowerOfTwo) (start : UInt32) :
    (blank size 0 : Ring α).ShiftedBy start (blank size start) where
  sized := (create_eq_ok (if_pos power)).1.sized
  slots := rfl
  read number := by rw [read_blank, read_blank]
  producer := (UInt32.zero_add start).symm
  consumer := (UInt32.zero_add start).symm
  flags := rfl

end Blank

namespace ShiftedBy

variable [Inhabited α] {r r' : Ring α}

theorem size (shifted : r.ShiftedBy d r') : r'.size = r.size := by
  rw [Ring.size, Ring.size, shifted.slots]

theorem pendingCount (shifted : r.ShiftedBy d r') : r'.pendingCount = r.pendingCount := by
  rw [Ring.pendingCount, shifted.producer, shifted.consumer, distance_shift, Ring.pendingCount]

theorem needsWakeup (shifted : r.ShiftedBy d r') : r'.needsWakeup = r.needsWakeup := by
  rw [Ring.needsWakeup, shifted.flags, Ring.needsWakeup]

theorem setFlags (shifted : r.ShiftedBy d r') (flags : UInt32) :
    (r.setFlags flags).ShiftedBy d (r'.setFlags flags) :=
  { shifted with flags := congrArg (Option.map fun _ => flags) shifted.flags }

theorem publish (shifted : r.ShiftedBy d r') (count : UInt32) : (r.publish count).ShiftedBy d (r'.publish count) := by
  refine { shifted with producer := ?_ }
  rw [producer_publish, producer_publish, shifted.producer, UInt32.add_assoc, UInt32.add_comm d, UInt32.add_assoc]

theorem release (shifted : r.ShiftedBy d r') (number : UInt32) :
    ({ r with consumer := number } : Ring α).ShiftedBy d { r' with consumer := number + d } :=
  { shifted with consumer := rfl }

theorem sized' (shifted : r.ShiftedBy d r') : r'.Sized := by
  rw [Sized, shifted.slots]
  exact shifted.sized

/-- Entries that share a slot still do. -/
theorem slot_eq_iff (shifted : r.ShiftedBy d r') (number other : UInt32) :
    r'.slot (number + d) = r'.slot (other + d) ↔ r.slot number = r.slot other := by
  have moved (n : UInt32) : r'.slot (n + d) = (n.toNat + d.toNat) % r.slots.size := by
    have slot := shifted.sized'.slot_add n d.toNat
    rwa [UInt32.ofNat_toNat, shifted.slots] at slot
  rw [moved, moved, shifted.sized.slot_eq_mod, shifted.sized.slot_eq_mod]
  constructor
  · exact fun same => Nat.ModEq.add_right_cancel' d.toNat same
  · exact fun same => Nat.ModEq.add_right d.toNat same

theorem write (shifted : r.ShiftedBy d r') (number : UInt32) (entry : α) :
    (r.write number entry).ShiftedBy d (r'.write (number + d) entry) := by
  refine { shifted with sized := shifted.sized.of_write _ _, slots := ?_, read := fun other => ?_ }
  · rw [slots_size_write, slots_size_write, shifted.slots]
  · by_cases same : r.slot number = r.slot other
    · -- Both rings read what was written, for the entries share a slot in both.
      have same' := (shifted.slot_eq_iff number other).mpr same
      rw [shifted.sized.read_write_of_slot_eq same, shifted.sized'.read_write_of_slot_eq same']
    · rw [read_write_of_slot_ne same, read_write_of_slot_ne (mt (shifted.slot_eq_iff number other).mp same), shifted.read]

theorem writeFrom (shifted : r.ShiftedBy d r') (number : UInt32) (entries : List α) :
    (r.writeFrom number entries).ShiftedBy d (r'.writeFrom (number + d) entries) := by
  induction entries generalizing r r' number with
  | nil => exact shifted
  | cons entry rest ih =>
    have next : number + d + 1 = number + 1 + d := by
      rw [UInt32.add_assoc, UInt32.add_comm d, UInt32.add_assoc]
    rw [Ring.writeFrom, Ring.writeFrom, next]
    exact ih (shifted.write number entry) (number + 1)

theorem readFrom (shifted : r.ShiftedBy d r') (number : UInt32) (count : Nat) :
    r'.readFrom (number + d) count = r.readFrom number count := by
  refine readFrom_congr fun i _ => ?_
  rw [UInt32.add_assoc, UInt32.add_comm d, ← UInt32.add_assoc, shifted.read]

theorem pending (shifted : r.ShiftedBy d r') : r'.pending = r.pending := by
  rw [Ring.pending, shifted.pendingCount, shifted.consumer, shifted.readFrom, Ring.pending]

end ShiftedBy

end Ring

/-! ### The producer -/

namespace Producer

/-- The view of a ring whose entries have larger numbers. -/
def shift (d : UInt32) (p : Producer) : Producer :=
  { p with next := p.next + d, limit := p.limit + d }

theorem attach_shift [Inhabited α] {r r' : Ring α} (shifted : r.ShiftedBy d r') : attach r' = (attach r).shift d := by
  rw [attach, attach, shift, shifted.size, shifted.producer, shifted.consumer, UInt32.add_assoc, UInt32.add_comm d,
    UInt32.add_assoc]

theorem freeEntries_shift (p : Producer) (consumer wanted : UInt32) :
    (p.shift d).freeEntries (consumer + d) wanted =
      ((p.freeEntries consumer wanted).1, (p.freeEntries consumer wanted).2.shift d) := by
  have moved : consumer + d + p.size = consumer + p.size + d := by
    rw [UInt32.add_assoc, UInt32.add_comm d, UInt32.add_assoc]
  simp only [freeEntries, shift, distance_shift, moved]
  split
  next => rfl
  next => rfl

theorem reserve_shift (p : Producer) (consumer count : UInt32) :
    (p.shift d).reserve (consumer + d) count =
      ((p.reserve consumer count).1.map (· + d), (p.reserve consumer count).2.shift d) := by
  simp only [reserve, freeEntries_shift]
  split
  next => rfl
  next =>
    simp only [shift, Option.map_some, UInt32.add_assoc, UInt32.add_comm d]

theorem reserveWithin_shift (p : Producer) (count : UInt32) (consumers : List UInt32) :
    (p.shift d).reserveWithin count (consumers.map (· + d)) =
      ((p.reserveWithin count consumers).1.map (· + d), (p.reserveWithin count consumers).2.shift d) := by
  induction consumers generalizing p with
  | nil => rfl
  | cons consumer later ih =>
    simp only [List.map_cons, reserveWithin, reserve_shift]
    obtain ⟨number, q⟩ := p.reserve consumer count
    cases number with
    | none => exact ih q
    | some number => rfl

theorem push_shift [Inhabited α] (p : Producer) {r r' : Ring α} (shifted : r.ShiftedBy d r') (entries : List α) :
    ∃ r'', (p.shift d).push r' entries = ((p.push r entries).1, (p.push r entries).2.1.shift d, r'') ∧
      (p.push r entries).2.2.ShiftedBy d r'' := by
  induction entries generalizing p r r' with
  | nil => exact ⟨r', rfl, shifted⟩
  | cons entry rest ih =>
    simp only [push, shifted.consumer, reserve_shift]
    obtain ⟨number, q⟩ := p.reserve r.consumer 1
    cases number with
    | none => exact ⟨r', rfl, shifted⟩
    | some number =>
      obtain ⟨r'', pushed, shifted'⟩ := ih q ((shifted.write number entry).publish 1)
      refine ⟨r'', ?_, shifted'⟩
      simp only [Option.map_some, pushed]

end Producer

/-! ### The consumer -/

namespace Consumer

/-- The view of a ring whose entries have larger numbers. -/
def shift (d : UInt32) (c : Consumer) : Consumer :=
  { c with next := c.next + d, limit := c.limit + d }

theorem attach_shift [Inhabited α] {r r' : Ring α} (shifted : r.ShiftedBy d r') : attach r' = (attach r).shift d := by
  rw [attach, attach, shift, shifted.size, shifted.producer, shifted.consumer]

theorem peek_shift (c : Consumer) (producer count : UInt32) :
    (c.shift d).peek (producer + d) count = ((c.peek producer count).1, (c.peek producer count).2.shift d) := by
  simp only [peek, shift, distance_shift]
  split
  next => rfl
  next => rfl

theorem release_shift [Inhabited α] (c : Consumer) {r r' : Ring α} (shifted : r.ShiftedBy d r') (count : UInt32) :
    ∃ r'', (c.shift d).release r' count = ((c.release r count).1.shift d, r'') ∧
      (c.release r count).2.ShiftedBy d r'' := by
  have moved : c.next + d + count = c.next + count + d := by
    rw [UInt32.add_assoc, UInt32.add_comm d, UInt32.add_assoc]
  refine ⟨_, ?_, shifted.release (c.next + count)⟩
  simp only [release, shift, moved]

theorem take_shift [Inhabited α] (c : Consumer) {r r' : Ring α} (shifted : r.ShiftedBy d r') (count : UInt32) :
    ∃ r'', (c.shift d).take r' count = ((c.take r count).1, (c.take r count).2.1.shift d, r'') ∧
      (c.take r count).2.2.ShiftedBy d r'' := by
  simp only [take, shifted.producer, peek_shift]
  obtain ⟨available, c'⟩ := c.peek r.producer count
  by_cases none : available = 0
  · simp only [if_pos none]
    exact ⟨r', rfl, shifted⟩
  · obtain ⟨r'', released, shifted'⟩ := c'.release_shift shifted available
    simp only [if_neg none, released]
    refine ⟨r'', ?_, shifted'⟩
    rw [shift, shifted.readFrom]

end Consumer

end XdpEcho
