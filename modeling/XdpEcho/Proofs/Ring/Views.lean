import XdpEcho.Proofs.Ring.Slots
import XdpEcho.Ring.Consumer
import XdpEcho.Ring.Producer

/-!
# Views that are right about their ring

A view remembers a cursor of the other side and may be behind it. It is right about its ring as long as what it takes
for free is free, and what it takes for published is published. This module says what each operation of a view that is
right does, and that the steps of the other side cannot make it wrong.

* `Producer.freeEntries_eq`, `Producer.reserve_eq_of_le`, `Consumer.peek_eq`, `Consumer.take_eq` — what holds of any
  view, right or wrong.
* `Producer.Tracks`, `Consumer.Tracks` — the two invariants; a producer may have reserved entries it has not published.
* `Producer.Tracks.freeEntries` — what a producer learns is capped by what is free, and is all that is free when it is
  less than was asked for.
* `Producer.Tracks.reserve_eq_some` — a reservation that finds room succeeds, with the next number.
* `Consumer.Tracks.peek` — what a consumer learns is pending, and is all that is pending when it knew of nothing.
* `Consumer.Tracks.take` — what a consumer takes is the oldest pending entries.
-/

namespace XdpEcho

variable {α : Type}

/-- How many slots hold neither a pending nor a reserved entry. -/
def Ring.freeSlots (r : Ring α) (reserved : Nat) : Nat :=
  r.slots.size - r.pendingCount.toNat - reserved

theorem Ring.Lawful.room_of_le_freeSlots {r : Ring α} (lawful : r.Lawful) {n : Nat} (le : n ≤ r.freeSlots 0) :
    r.pendingCount.toNat + n ≤ r.slots.size := by
  have := lawful.bounded
  rw [freeSlots] at le
  omega

/-! ### Producers -/

/-- A producer that is right about its ring: `reserved` entries behind the published ones are its own, and the slots
that it takes for free are free. -/
structure Producer.Tracks (p : Producer) (r : Ring α) (reserved : Nat) : Prop where
  sized : r.Sized
  size : p.size = r.size
  next : p.next = r.producer + .ofNat reserved
  room : r.pendingCount.toNat + reserved + (p.limit - p.next).toNat ≤ r.slots.size

namespace Producer

variable {p : Producer} {r : Ring α} {reserved : Nat}

/-- Whatever it finds in the cursor, a producer goes by what it then remembers. -/
theorem freeEntries_eq (p : Producer) (consumer wanted : UInt32) :
    ∃ limit, p.freeEntries consumer wanted = (limit - p.next, { p with limit }) := by
  rw [freeEntries]
  split
  next => exact ⟨p.limit, rfl⟩
  next => exact ⟨consumer + p.size, rfl⟩

/-- A producer that remembers enough free slots reserves them, whatever is in the cursor. -/
theorem reserve_eq_of_le {count : UInt32} (le : count ≤ p.limit - p.next) (consumer : UInt32) :
    p.reserve consumer count = (some p.next, { p with next := p.next + count }) := by
  simp only [reserve, freeEntries, if_pos le]
  rw [if_neg (UInt32.not_lt.mpr le)]

theorem Tracks.attach (lawful : r.Lawful) : (attach r).Tracks r 0 := by
  refine ⟨lawful.sized, rfl, by simp [Producer.attach], ?_⟩
  have bounded := lawful.bounded
  have le := lawful.sized.slots_size_le
  have := r.producer.toNat_lt
  have := r.consumer.toNat_lt
  rw [Ring.toNat_pendingCount] at bounded ⊢
  simp only [Producer.attach, UInt32.toNat_sub, UInt32.toNat_add, lawful.sized.toNat_size]
  omega

namespace Tracks

theorem lawful (tracks : p.Tracks r reserved) : r.Lawful :=
  ⟨tracks.sized, by have := tracks.room; omega⟩

/-- A producer that has published everything goes on behind the pending entries. -/
theorem next_eq (tracks : p.Tracks r 0) : p.next = r.producer :=
  tracks.next.trans (UInt32.add_zero _)

theorem le_freeSlots (tracks : p.Tracks r reserved) : (p.limit - p.next).toNat ≤ r.freeSlots reserved := by
  have := tracks.room
  rw [Ring.freeSlots]
  omega

/-- After a look at the cursor a producer takes exactly the free slots for free. -/
theorem toNat_refreshed (tracks : p.Tracks r reserved) :
    (r.consumer + p.size - p.next).toNat = r.freeSlots reserved := by
  have room := tracks.room
  have le := tracks.sized.slots_size_le
  have := r.producer.toNat_lt
  have := r.consumer.toNat_lt
  rw [tracks.size, tracks.next, Ring.freeSlots, Ring.toNat_pendingCount] at *
  simp only [UInt32.toNat_sub, UInt32.toNat_add, UInt32.toNat_ofNat', tracks.sized.toNat_size]
  omega

/-- A producer learns of free slots only, and of all of them when they are fewer than it wanted. -/
theorem freeEntries (tracks : p.Tracks r reserved) {wanted free : UInt32} {p' : Producer}
    (asked : p.freeEntries r.consumer wanted = (free, p')) :
    p'.Tracks r reserved ∧ p'.next = p.next ∧ free = p'.limit - p'.next ∧
      min free.toNat wanted.toNat = min (r.freeSlots reserved) wanted.toNat := by
  have known := tracks.le_freeSlots
  have refreshed := tracks.toNat_refreshed
  have room := tracks.room
  rw [Producer.freeEntries] at asked
  split at asked
  next le =>
    have le : wanted.toNat ≤ (p.limit - p.next).toNat := le
    cases asked
    exact ⟨tracks, rfl, rfl, by omega⟩
  next =>
    cases asked
    refine ⟨⟨tracks.sized, tracks.size, tracks.next, ?_⟩, rfl, rfl, by rw [refreshed]⟩
    simp only [refreshed]
    rw [Ring.freeSlots]
    omega

/-- A reservation that finds room gives the next numbers to the producer. -/
theorem reserve_eq_some (tracks : p.Tracks r reserved) (count : UInt32) (fits : count.toNat ≤ r.freeSlots reserved) :
    ∃ p', p.reserve r.consumer count = (some p.next, p') ∧ p'.Tracks r (reserved + count.toNat) := by
  obtain ⟨free, p', asked⟩ : ∃ free p', p.freeEntries r.consumer count = (free, p') := ⟨_, _, rfl⟩
  obtain ⟨tracks', next, rfl, least⟩ := tracks.freeEntries asked
  have enough : count.toNat ≤ (p'.limit - p'.next).toNat := by omega
  refine ⟨{ p' with next := p'.next + count }, ?_, tracks'.sized, tracks'.size, ?_, ?_⟩
  · have notLess : ¬ p'.limit - p'.next < count := by
      rw [UInt32.lt_iff_toNat_lt]
      omega
    simp only [Producer.reserve, asked]
    rw [if_neg notLess, next]
  · rw [tracks'.next, UInt32.ofNat_add, UInt32.ofNat_toNat, UInt32.add_assoc]
  · have room := tracks'.room
    have := p'.next.toNat_lt
    have := p'.limit.toNat_lt
    simp only [UInt32.toNat_sub, UInt32.toNat_add] at *
    omega

/-- A reservation that does not find room leaves the producer right about its ring. -/
theorem reserve_eq_none (tracks : p.Tracks r reserved) {count : UInt32} (tooMany : r.freeSlots reserved < count.toNat) :
    ∃ p', p.reserve r.consumer count = (none, p') ∧ p'.Tracks r reserved := by
  obtain ⟨free, p', asked⟩ : ∃ free p', p.freeEntries r.consumer count = (free, p') := ⟨_, _, rfl⟩
  obtain ⟨tracks', -, -, least⟩ := tracks.freeEntries asked
  have short : free < count := by
    rw [UInt32.lt_iff_toNat_lt]
    omega
  exact ⟨p', by simp [Producer.reserve, asked, short], tracks'⟩

/-- A producer stays right about its ring while its reserved slots are written. -/
theorem write (tracks : p.Tracks r reserved) (number : UInt32) (entry : α) :
    p.Tracks (r.write number entry) reserved :=
  ⟨tracks.sized.of_write number entry, by simpa using tracks.size, by simpa using tracks.next,
    by simpa [Ring.pendingCount] using tracks.room⟩

theorem writeFrom (tracks : p.Tracks r reserved) (number : UInt32) (entries : List α) :
    p.Tracks (r.writeFrom number entries) reserved := by
  induction entries generalizing r number with
  | nil => exact tracks
  | cons entry rest ih => exact ih (tracks.write number entry) (number + 1)

/-- Publishing the oldest reserved entries keeps the producer right about its ring. -/
theorem publish (tracks : p.Tracks r reserved) (count : UInt32) (le : count.toNat ≤ reserved) :
    p.Tracks (r.publish count) (reserved - count.toNat) := by
  have room := tracks.room
  have size := tracks.sized.slots_size_le
  refine ⟨tracks.sized, tracks.size, ?_, ?_⟩
  · have split : reserved = count.toNat + (reserved - count.toNat) := by omega
    rw [tracks.next, Ring.producer_publish, UInt32.add_assoc]
    conv_lhs => rw [split, UInt32.ofNat_add, UInt32.ofNat_toNat]
  · rw [Ring.toNat_pendingCount_publish (by omega), Ring.slots_size_publish]
    omega

/-- Writing all reserved entries and publishing them leaves the producer without reservations. -/
theorem push {entries : List α} (tracks : p.Tracks r entries.length) : p.Tracks (r.push entries) 0 := by
  have room := tracks.room
  have toNat : (UInt32.ofNat entries.length).toNat = entries.length := tracks.lawful.toNat_length (by omega)
  have published := (tracks.writeFrom r.producer entries).publish (.ofNat entries.length) (by omega)
  rwa [toNat, Nat.sub_self] at published

theorem setFlags (tracks : p.Tracks r reserved) (flags : UInt32) : p.Tracks (r.setFlags flags) reserved :=
  ⟨tracks.sized, tracks.size, tracks.next, tracks.room⟩

/-- The consumer can only make more room than a producer knows of. -/
theorem consume (tracks : p.Tracks r reserved) {count : UInt32} (le : count.toNat ≤ r.pendingCount.toNat) :
    p.Tracks (r.consume count) reserved := by
  refine ⟨tracks.sized, tracks.size, tracks.next, ?_⟩
  have := tracks.room
  rw [Ring.toNat_pendingCount_consume le, Ring.slots_size_consume]
  omega

end Tracks

end Producer

/-! ### Consumers -/

/-- A consumer that is right about its ring: the entries that it takes for published are published. -/
structure Consumer.Tracks (c : Consumer) (r : Ring α) : Prop where
  lawful : r.Lawful
  size : c.size = r.size
  next : c.next = r.consumer
  known : (c.limit - c.next).toNat ≤ r.pendingCount.toNat

namespace Consumer

variable {c : Consumer} {r : Ring α}

/-- Whatever is in the cursor, a consumer sees no more entries than it asks for. -/
theorem peek_eq (c : Consumer) (producer count : UInt32) :
    ∃ available limit, c.peek producer count = (available, { c with limit }) ∧ available ≤ count := by
  rw [peek]
  split
  next =>
    refine ⟨_, _, rfl, ?_⟩
    rw [UInt32.le_iff_toNat_le, UInt32.toNat_min]
    exact Nat.min_le_right _ _
  next =>
    refine ⟨_, c.limit, rfl, ?_⟩
    rw [UInt32.le_iff_toNat_le, UInt32.toNat_min]
    exact Nat.min_le_right _ _

/-- Whatever is in the cursor, a consumer takes the entries behind those that it has taken before. -/
theorem take_eq [Inhabited α] (c : Consumer) (r : Ring α) (count : UInt32) :
    ∃ (taken limit consumer : UInt32), c.take r count =
      (r.readFrom c.next taken.toNat, { c with next := c.next + taken, limit }, { r with consumer }) := by
  obtain ⟨available, limit, asked, -⟩ := c.peek_eq r.producer count
  refine ⟨available, limit, ?_⟩
  simp only [take, asked, release]
  split
  next none =>
    refine ⟨r.consumer, ?_⟩
    rw [none, UInt32.add_zero]
    rfl
  next => exact ⟨c.next + available, rfl⟩

theorem Tracks.attach (lawful : r.Lawful) : (attach r).Tracks r :=
  ⟨lawful, rfl, rfl, Nat.le_refl _⟩

namespace Tracks

/-- A consumer learns of pending entries only. When it knew of none or is up to date it learns of all of them, and
when it still knows of none there are none. -/
theorem peek (tracks : c.Tracks r) {count available : UInt32} {c' : Consumer}
    (asked : c.peek r.producer count = (available, c')) :
    c'.Tracks r ∧ c'.next = c.next ∧ available.toNat = min (c'.limit - c'.next).toNat count.toNat ∧
      (c.limit - c.next).toNat ≤ (c'.limit - c'.next).toNat ∧
      (c.limit = c.next ∨ c.limit = r.producer → c'.limit - c'.next = r.pendingCount) ∧
      (c'.limit = c'.next → r.pendingCount = 0) := by
  rw [Consumer.peek] at asked
  split at asked
  next none =>
    cases asked
    refine ⟨⟨tracks.lawful, tracks.size, tracks.next, ?_⟩, rfl, UInt32.toNat_min _ _, ?_, ?_, ?_⟩
    · rw [tracks.next, Ring.pendingCount]
    · rw [none]
      exact Nat.zero_le _
    · intro _
      rw [tracks.next, Ring.pendingCount]
    · intro eq
      rw [Ring.pendingCount, ← tracks.next]
      exact UInt32.sub_eq_iff_eq_add.mpr (by rw [UInt32.zero_add]; exact eq)
  next some =>
    cases asked
    have known (eq : c.limit = c.next) : False := some (by rw [eq, UInt32.sub_self])
    refine ⟨tracks, rfl, UInt32.toNat_min _ _, Nat.le_refl _, ?_, fun eq => (known eq).elim⟩
    rintro (eq | eq)
    · exact (known eq).elim
    · rw [eq, tracks.next, Ring.pendingCount]

/-- Releasing entries that the consumer knows of. -/
theorem release (tracks : c.Tracks r) (count : UInt32) (le : count.toNat ≤ (c.limit - c.next).toNat) :
    ∃ c', c.release r count = (c', r.consume count) ∧ c'.Tracks (r.consume count) ∧
      (c'.limit - c'.next).toNat = (c.limit - c.next).toNat - count.toNat := by
  have known := tracks.known
  have fewer : (c.limit - (c.next + count)).toNat = (c.limit - c.next).toNat - count.toNat := by
    have := c.limit.toNat_lt
    have := c.next.toNat_lt
    simp only [UInt32.toNat_sub, UInt32.toNat_add] at *
    omega
  refine ⟨{ c with next := c.next + count }, ?_, ⟨?_, tracks.size, ?_, ?_⟩, fewer⟩
  · rw [Consumer.release, Ring.consume, tracks.next]
  · exact tracks.lawful.consume (by omega)
  · rw [Ring.consumer_consume, tracks.next]
  · rw [Ring.toNat_pendingCount_consume (by omega), fewer]
    omega

/-- The producer can only publish more than a consumer knows of. -/
theorem publish (tracks : c.Tracks r) {count : UInt32} (room : r.pendingCount.toNat + count.toNat ≤ r.slots.size) :
    c.Tracks (r.publish count) := by
  refine ⟨tracks.lawful.publish room, tracks.size, tracks.next, ?_⟩
  have := tracks.known
  rw [Ring.toNat_pendingCount_publish (tracks.lawful.toNat_add_lt room)]
  omega

/-- A consumer is not concerned with what is written into free slots. -/
theorem write (tracks : c.Tracks r) (number : UInt32) (entry : α) : c.Tracks (r.write number entry) :=
  ⟨tracks.lawful.write number entry, by simpa using tracks.size, tracks.next, tracks.known⟩

theorem setFlags (tracks : c.Tracks r) (flags : UInt32) : c.Tracks (r.setFlags flags) :=
  ⟨⟨tracks.lawful.sized, tracks.lawful.bounded⟩, tracks.size, tracks.next, tracks.known⟩

/-- Entries that find room do not take away what a consumer knows of. -/
theorem push (tracks : c.Tracks r) {entries : List α} (room : r.pendingCount.toNat + entries.length ≤ r.slots.size) :
    c.Tracks (r.push entries) := by
  refine ⟨tracks.lawful.push room, ?_, ?_, ?_⟩
  · rw [tracks.size, Ring.push, Ring.size_publish, Ring.size, Ring.size, Ring.slots_size_writeFrom]
  · rw [tracks.next, Ring.push, Ring.consumer_publish, Ring.consumer_writeFrom]
  · have := tracks.known
    rw [tracks.lawful.toNat_pendingCount_push room]
    omega

/-- What a consumer takes is the oldest pending entries, and all of them when it knew of none or is up to date and
asked for as many as there are. -/
theorem take [Inhabited α] (tracks : c.Tracks r) {count : UInt32} {entries : List α} {c' : Consumer} {r' : Ring α}
    (taken : c.take r count = (entries, c', r')) :
    entries.length ≤ r.pendingCount.toNat ∧ entries = r.pending.take entries.length ∧
      r' = r.consume (.ofNat entries.length) ∧ c'.Tracks r' ∧
      (c.limit = c.next ∨ c.limit = r.producer → r.pendingCount.toNat ≤ count.toNat →
        entries = r.pending ∧ c'.limit = c'.next) := by
  obtain ⟨available, c₁, asked⟩ : ∃ available c₁, c.peek r.producer count = (available, c₁) := ⟨_, _, rfl⟩
  obtain ⟨tracks₁, -, least, -, refreshed, -⟩ := tracks.peek asked
  have known := tracks₁.known
  simp only [Consumer.take, asked] at taken
  split at taken
  next none =>
    cases taken
    have zero : available.toNat = 0 := by rw [none]; rfl
    refine ⟨Nat.zero_le _, by simp, by simp [Ring.consume], tracks₁, fun fresh all => ?_⟩
    have empty : r.pendingCount = 0 := by
      rw [refreshed fresh] at least
      exact UInt32.toNat_inj.mp (by rw [UInt32.toNat_zero]; omega)
    refine ⟨(Ring.pending_eq_nil_iff.mpr empty).symm, ?_⟩
    have eq := refreshed fresh
    rw [empty] at eq
    exact (UInt32.sub_eq_iff_eq_add.mp eq).trans (UInt32.zero_add _)
  next some =>
    obtain ⟨c₂, released, tracks₂, left⟩ := tracks₁.release available (by omega)
    rw [released] at taken
    cases taken
    have ofNat : UInt32.ofNat (r.readFrom c₁.next available.toNat).length = available := by simp
    have all : r.readFrom c₁.next available.toNat = r.pending.take available.toNat := by
      rw [Ring.take_pending r (by omega), tracks₁.next]
    rw [ofNat]
    refine ⟨by simp; omega, by simpa using all, rfl, tracks₂, fun fresh enough => ?_⟩
    rw [refreshed fresh] at least left
    have eq : available.toNat = r.pendingCount.toNat := by omega
    refine ⟨by rw [all, eq, ← Ring.length_pending, List.take_length], ?_⟩
    have none : c₂.limit - c₂.next = 0 := UInt32.toNat_inj.mp (by rw [left, UInt32.toNat_zero]; omega)
    exact (UInt32.sub_eq_iff_eq_add.mp none).trans (UInt32.zero_add _)

end Tracks

end Consumer

end XdpEcho
