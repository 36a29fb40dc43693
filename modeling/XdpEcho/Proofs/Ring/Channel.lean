import XdpEcho.Bench.RingPair
import XdpEcho.Proofs.Ring.Views

/-!
# A ring is a bounded channel

Both sides of a ring take turns in any order. Each keeps to its part: the producer writes slots that it has reserved
and not yet published, and publishes no further than it has written; the consumer reads and releases no more than it
has peeked at. Either side may start over with a fresh view, the producer when nothing is left reserved.

* `Channel.Step`, `Channel.Reachable` — what the two sides may do, and the states that they can get to.
* `Channel.Sound` — the invariant: both views are right, written entries are in their slots, and what has been
  submitted is what has been received followed by what is pending.
* `Channel.bounded_fifo` — entries come out as they went in and in that order, no slot is written between its
  submission and its release, and no more entries are under way than there are slots.
-/

namespace XdpEcho

/-- A slot that the producer has reserved and not yet published. -/
structure Reservation (α : Type) where
  /-- The number under which the slot was reserved. -/
  number : UInt32
  /-- What has been written into the slot. -/
  entry : Option α

/-- A ring with both its sides, and what has gone through it so far. -/
structure Channel (α : Type) where
  /-- The ring and its two views. -/
  pair : RingPair α
  /-- The slots that are reserved and not yet published, in the order of their reservation. -/
  reserved : List (Reservation α)
  /-- Every entry published so far. -/
  submitted : List α
  /-- For each entry that has been peeked at and not yet released, what the consumer has last read there. -/
  readings : List (Option α)
  /-- For each entry released so far, what the consumer had last read there. -/
  received : List (Option α)

namespace Channel

variable {α : Type} [Inhabited α]

/-- A fresh ring with a fresh view on each side. -/
def opened (ring : Ring α) : Channel α where
  pair := .attach ring
  reserved := []
  submitted := []
  readings := []
  received := []

/-- What either side may do next. -/
inductive Step : Channel α → Channel α → Prop
  /-- The producer asks for free slots. -/
  | ask (s : Channel α) (wanted : UInt32) : Step s { s with pair := (s.pair.freeEntries wanted).2 }
  /-- The producer reserves slots. -/
  | reserve {s : Channel α} {count number : UInt32} {pair : RingPair α}
      (found : s.pair.reserve count = (some number, pair)) :
      Step s { s with
        pair, reserved := s.reserved ++ (List.range count.toNat).map fun i => ⟨number + .ofNat i, none⟩ }
  /-- The producer does not get the slots it asks for. -/
  | refuse {s : Channel α} {count : UInt32} {pair : RingPair α} (full : s.pair.reserve count = (none, pair)) :
      Step s { s with pair }
  /-- The producer writes a slot that it has reserved. -/
  | write {s : Channel α} {i : Nat} {slot : Reservation α} (own : s.reserved[i]? = some slot) (entry : α) :
      Step s { s with
        pair := s.pair.mapRing (·.write slot.number entry)
        reserved := s.reserved.set i { slot with entry := some entry } }
  /-- The producer publishes slots that it has written, the first reserved ones. -/
  | submit {s : Channel α} (entries : List α)
      (written : (s.reserved.take entries.length).map (·.entry) = entries.map some) :
      Step s { s with
        pair := s.pair.mapRing (·.publish (.ofNat entries.length))
        reserved := s.reserved.drop entries.length
        submitted := s.submitted ++ entries }
  /-- The consumer peeks. Later peeks may show less, but what has been shown stays readable. -/
  | peek {s : Channel α} {count available : UInt32} {pair : RingPair α}
      (shown : s.pair.peek count = (available, pair)) :
      Step s { s with
        pair, readings := s.readings ++ List.replicate (available.toNat - s.readings.length) none }
  /-- The consumer reads an entry that it has peeked at. -/
  | read {s : Channel α} {i : Nat} (shown : i < s.readings.length) :
      Step s { s with
        readings := s.readings.set i (some (s.pair.ring.read (s.pair.consumer.next + .ofNat i))) }
  /-- The consumer releases entries that it has peeked at. -/
  | release {s : Channel α} {count : UInt32} (shown : count.toNat ≤ s.readings.length) :
      Step s { s with
        pair := s.pair.release count
        readings := s.readings.drop count.toNat
        received := s.received ++ s.readings.take count.toNat }
  /-- The producer starts over. -/
  | renewProducer {s : Channel α} (nothing : s.reserved = []) :
      Step s { s with pair := { s.pair with producer := .attach s.pair.ring } }
  /-- The consumer starts over. -/
  | renewConsumer (s : Channel α) :
      Step s { s with pair := { s.pair with consumer := .attach s.pair.ring }, readings := [] }

/-- The states that two sides can get a ring of the given size to, when its cursors stand at `start` at first. -/
inductive Reachable (size start : UInt32) : Channel α → Prop
  | opened {ring : Ring α} (created : Ring.create size start = .ok ring) : Reachable size start (opened ring)
  | step {s t : Channel α} : Reachable size start s → Step s t → Reachable size start t

/-- Both views are right about the ring, each reserved slot holds what has been written into it, and what has been
submitted is what has been received followed by what is pending. -/
structure Sound (s : Channel α) : Prop where
  producer : s.pair.producer.Tracks s.pair.ring s.reserved.length
  consumer : s.pair.consumer.Tracks s.pair.ring
  numbers : ∀ {i : Nat} {slot : Reservation α},
    s.reserved[i]? = some slot → slot.number = s.pair.ring.producer + .ofNat i
  entries : ∀ {i : Nat} {slot : Reservation α} {x : α},
    s.reserved[i]? = some slot → slot.entry = some x → s.pair.ring.read slot.number = x
  shown : s.readings.length ≤ (s.pair.consumer.limit - s.pair.consumer.next).toNat
  readings : ∀ {i : Nat} {x : α}, s.readings[i]? = some (some x) → s.pair.ring.pending[i]? = some x
  received : ∀ {i : Nat} {x : α}, s.received[i]? = some (some x) → s.submitted[i]? = some x
  received_le : s.received.length ≤ s.submitted.length
  pending : s.submitted.drop s.received.length = s.pair.ring.pending

end Channel

/-! ### Every step keeps a channel sound -/

namespace Channel

variable {α : Type} [Inhabited α] {s t : Channel α}

theorem sound_opened {ring : Ring α} (lawful : ring.Lawful) (empty : ring.pending = []) :
    (opened ring).Sound where
  producer := Producer.Tracks.attach lawful
  consumer := Consumer.Tracks.attach lawful
  numbers := by simp [opened]
  entries := by simp [opened]
  shown := Nat.zero_le _
  readings := by simp [opened]
  received := by simp [opened]
  received_le := Nat.le_refl _
  pending := by simp [opened, RingPair.attach, empty]

namespace Sound

/-- The slot of a reserved entry is neither that of a pending entry nor that of another reserved one. -/
theorem slot_ne (sound : s.Sound) {i : Nat} {slot : Reservation α} (own : s.reserved[i]? = some slot) {j : Nat}
    (lt : j < s.pair.ring.pendingCount.toNat + s.reserved.length) (ne : j ≠ s.pair.ring.pendingCount.toNat + i) :
    s.pair.ring.slot slot.number ≠ s.pair.ring.slot (s.pair.ring.consumer + .ofNat j) := by
  have room := sound.producer.room
  have hi : i < s.reserved.length := (List.getElem?_eq_some_iff.mp own).1
  rw [sound.numbers own, Ring.producer_eq, UInt32.add_assoc, ← UInt32.ofNat_add]
  intro eq
  exact ne (sound.producer.sized.slot_add_inj (by omega) (by omega) eq).symm

/-- Two reserved entries have different slots. -/
theorem slot_ne_slot (sound : s.Sound) {i j : Nat} {slot other : Reservation α} (own : s.reserved[i]? = some slot)
    (own' : s.reserved[j]? = some other) (ne : j ≠ i) :
    s.pair.ring.slot slot.number ≠ s.pair.ring.slot other.number := by
  have hj : j < s.reserved.length := (List.getElem?_eq_some_iff.mp own').1
  have apart := sound.slot_ne own (j := s.pair.ring.pendingCount.toNat + j) (by omega) (by omega)
  rwa [UInt32.ofNat_add, ← UInt32.add_assoc, ← Ring.producer_eq, ← sound.numbers own'] at apart

theorem ask (sound : s.Sound) (wanted : UInt32) :
    Sound { s with pair := (s.pair.freeEntries wanted).2 } :=
  { sound with producer := (sound.producer.freeEntries rfl).1 }

theorem reserve (sound : s.Sound) {count number : UInt32} {pair : RingPair α}
    (found : s.pair.reserve count = (some number, pair)) :
    Sound { s with
      pair, reserved := s.reserved ++ (List.range count.toNat).map fun i => ⟨number + .ofNat i, none⟩ } := by
  rw [RingPair.reserve] at found
  rcases Nat.lt_or_ge (s.pair.ring.freeSlots s.reserved.length) count.toNat with tooMany | fits
  · obtain ⟨p, refused, -⟩ := sound.producer.reserve_eq_none tooMany
    simp [refused] at found
  obtain ⟨p, reserved, tracks⟩ := sound.producer.reserve_eq_some _ fits
  simp only [reserved, Prod.mk.injEq, Option.some.injEq] at found
  obtain ⟨rfl, rfl⟩ := found
  refine { sound with producer := by simpa using tracks, numbers := ?_, entries := ?_ }
  · intro i slot own
    rw [List.getElem?_append] at own
    split at own
    next => exact sound.numbers own
    next ge =>
      -- A slot behind the old ones has been reserved just now, and the view counts from the reserved ones on.
      obtain ⟨k, hk, rfl⟩ := List.mem_map.mp (List.mem_of_getElem? own)
      simp only [List.getElem?_map, Option.map_eq_some_iff] at own
      obtain ⟨j, hj, own⟩ := own
      have eq : j = i - s.reserved.length := by simpa using (List.getElem?_eq_some_iff.mp hj).2.symm
      rw [← own, sound.producer.next, UInt32.add_assoc, ← UInt32.ofNat_add, eq,
        show s.reserved.length + (i - s.reserved.length) = i by omega]
  · intro i slot x own entry
    rw [List.getElem?_append] at own
    split at own
    next => exact sound.entries own entry
    next =>
      obtain ⟨k, -, rfl⟩ := List.mem_map.mp (List.mem_of_getElem? own)
      cases entry

theorem refuse (sound : s.Sound) {count : UInt32} {pair : RingPair α}
    (full : s.pair.reserve count = (none, pair)) : Sound { s with pair } := by
  rw [RingPair.reserve] at full
  rcases Nat.lt_or_ge (s.pair.ring.freeSlots s.reserved.length) count.toNat with tooMany | fits
  · obtain ⟨p, refused, tracks⟩ := sound.producer.reserve_eq_none tooMany
    simp only [refused, Prod.mk.injEq, true_and] at full
    subst full
    exact { sound with producer := tracks }
  · obtain ⟨p, reserved, -⟩ := sound.producer.reserve_eq_some _ fits
    simp [reserved] at full

theorem write (sound : s.Sound) {i : Nat} {slot : Reservation α} (own : s.reserved[i]? = some slot) (entry : α) :
    Sound { s with
      pair := s.pair.mapRing (·.write slot.number entry)
      reserved := s.reserved.set i { slot with entry := some entry } } := by
  -- No pending entry is in a slot that may be written.
  have pending : (s.pair.ring.write slot.number entry).pending = s.pair.ring.pending := by
    refine Ring.readFrom_congr fun j hj => Ring.read_write_of_slot_ne (sound.slot_ne own ?_ ?_) entry
    all_goals
      have : j < s.pair.ring.pendingCount.toNat := hj
      omega
  refine { sound with
    producer := ?_
    consumer := sound.consumer.write slot.number entry
    numbers := ?_, entries := ?_
    readings := fun read => pending ▸ sound.readings read
    pending := sound.pending.trans pending.symm }
  · simpa [RingPair.mapRing] using sound.producer.write slot.number entry
  · intro j other own'
    rw [List.getElem?_set] at own'
    split at own'
    next eq =>
      subst eq
      have number := sound.numbers own
      split at own' <;> cases own'
      exact number
    next => exact sound.numbers own'
  · intro j other x own' holds
    rw [List.getElem?_set] at own'
    split at own'
    next eq =>
      subst eq
      split at own' <;> cases own'
      cases holds
      exact sound.producer.sized.read_write_self _ _
    next ne =>
      have apart := sound.slot_ne_slot own own' (Ne.symm ne)
      exact (Ring.read_write_of_slot_ne apart entry).trans (sound.entries own' holds)

theorem submit (sound : s.Sound) {entries : List α}
    (written : (s.reserved.take entries.length).map (·.entry) = entries.map some) :
    Sound { s with
      pair := s.pair.mapRing (·.publish (.ofNat entries.length))
      reserved := s.reserved.drop entries.length
      submitted := s.submitted ++ entries } := by
  have le : entries.length ≤ s.reserved.length := by
    have := congrArg List.length written
    simp at this
    omega
  have room := sound.producer.room
  have toNat : (UInt32.ofNat entries.length).toNat = entries.length :=
    sound.consumer.lawful.toNat_length (by omega)
  -- The slots hold what was written into them, so this is what becomes pending.
  have published : s.pair.ring.readFrom s.pair.ring.producer entries.length = entries := by
    refine Ring.readFrom_eq fun {i x} holds => ?_
    have lt : i < entries.length := (List.getElem?_eq_some_iff.mp holds).1
    have entry := congrArg (·[i]?) written
    simp only [List.getElem?_map, List.getElem?_take, if_pos lt, holds, Option.map_some] at entry
    obtain ⟨slot, own, eq⟩ := Option.map_eq_some_iff.mp entry
    rw [← sound.numbers own]
    exact sound.entries own eq
  have pending : (s.pair.ring.publish (.ofNat entries.length)).pending = s.pair.ring.pending ++ entries := by
    rw [Ring.pending_publish (by rw [toNat]; exact sound.consumer.lawful.toNat_add_lt (by omega)), toNat, published]
  refine { sound with
    producer := ?_, consumer := sound.consumer.publish (by omega)
    numbers := ?_, entries := ?_, readings := ?_, received := ?_, received_le := ?_, pending := ?_ }
  · simpa [RingPair.mapRing, toNat] using sound.producer.publish (.ofNat entries.length) (by omega)
  · intro i slot own
    rw [List.getElem?_drop] at own
    rw [sound.numbers own, UInt32.ofNat_add, ← UInt32.add_assoc]
    rfl
  · intro i slot x own holds
    rw [List.getElem?_drop] at own
    exact sound.entries own holds
  · intro i x read
    have entry := sound.readings read
    change (s.pair.ring.publish (.ofNat entries.length)).pending[i]? = _
    rwa [pending, List.getElem?_append_left (List.getElem?_eq_some_iff.mp entry).1]
  · intro i x read
    have entry := sound.received read
    rwa [List.getElem?_append_left (List.getElem?_eq_some_iff.mp entry).1]
  · have := sound.received_le
    simp
    omega
  · rw [List.drop_append_of_le_length sound.received_le, sound.pending]
    exact pending.symm

theorem peek (sound : s.Sound) {count available : UInt32} {pair : RingPair α}
    (shown : s.pair.peek count = (available, pair)) :
    Sound { s with
      pair, readings := s.readings ++ List.replicate (available.toNat - s.readings.length) none } := by
  obtain ⟨available', c, asked⟩ : ∃ a c, s.pair.consumer.peek s.pair.ring.producer count = (a, c) := ⟨_, _, rfl⟩
  obtain ⟨tracks, -, least, more, -⟩ := sound.consumer.peek asked
  have before := sound.shown
  simp only [RingPair.peek, asked, Prod.mk.injEq] at shown
  obtain ⟨rfl, rfl⟩ := shown
  refine { sound with consumer := tracks, shown := ?_, readings := ?_ }
  · simp
    omega
  · intro i x read
    rw [List.getElem?_append] at read
    split at read
    next => exact sound.readings read
    next => simp [List.getElem?_replicate] at read

/-- What the consumer may read is what has been submitted, in order. -/
theorem read_eq (sound : s.Sound) {i : Nat} (shown : i < s.readings.length) :
    s.pair.ring.pending[i]? = some (s.pair.ring.read (s.pair.consumer.next + .ofNat i)) := by
  have := sound.shown
  have := sound.consumer.known
  rw [sound.consumer.next, Ring.getElem?_pending _ (by omega)]

theorem read (sound : s.Sound) {i : Nat} (shown : i < s.readings.length) :
    Sound { s with
      readings := s.readings.set i (some (s.pair.ring.read (s.pair.consumer.next + .ofNat i))) } := by
  refine { sound with shown := by simpa using sound.shown, readings := ?_ }
  intro j x read
  rw [List.getElem?_set] at read
  split at read
  next eq =>
    subst eq
    cases read
    exact sound.read_eq shown
  next => exact sound.readings read

theorem release (sound : s.Sound) {count : UInt32} (shown : count.toNat ≤ s.readings.length) :
    Sound { s with
      pair := s.pair.release count
      readings := s.readings.drop count.toNat
      received := s.received ++ s.readings.take count.toNat } := by
  have known := sound.consumer.known
  have before := sound.shown
  have le : count.toNat ≤ s.pair.ring.pendingCount.toNat := by omega
  obtain ⟨c, released, tracks, left⟩ := sound.consumer.release count (by omega)
  have total : s.submitted.length = s.received.length + s.pair.ring.pendingCount.toNat := by
    have pending := congrArg List.length sound.pending
    have := sound.received_le
    rw [List.length_drop, Ring.length_pending] at pending
    omega
  simp only [RingPair.release, released]
  refine { sound with
    producer := sound.producer.consume le, consumer := tracks
    shown := ?_, readings := ?_, received := ?_, received_le := ?_, pending := ?_ }
  · rw [left, List.length_drop]
    omega
  · intro i x read
    rw [List.getElem?_drop] at read
    rw [Ring.pending_consume le, List.getElem?_drop]
    exact sound.readings read
  · intro i x read
    rw [List.getElem?_append] at read
    split at read
    next => exact sound.received read
    next ge =>
      rw [List.getElem?_take] at read
      split at read
      next =>
        have entry := sound.readings read
        rw [← sound.pending, List.getElem?_drop] at entry
        rwa [show s.received.length + (i - s.received.length) = i by omega] at entry
      next => cases read
  · rw [List.length_append, List.length_take_of_le shown, total]
    omega
  · rw [Ring.pending_consume le, ← sound.pending, List.drop_drop, List.length_append, List.length_take_of_le shown]

theorem renewProducer (sound : s.Sound) (nothing : s.reserved = []) :
    Sound { s with pair := { s.pair with producer := .attach s.pair.ring } } :=
  { sound with producer := by simpa [nothing] using Producer.Tracks.attach sound.consumer.lawful }

theorem renewConsumer (sound : s.Sound) :
    Sound { s with pair := { s.pair with consumer := .attach s.pair.ring }, readings := [] } :=
  { sound with
    consumer := Consumer.Tracks.attach sound.consumer.lawful
    shown := Nat.zero_le _
    readings := fun read => by simp at read }

end Sound

theorem Step.sound (step : Step s t) (sound : s.Sound) : t.Sound := by
  cases step with
  | ask wanted => exact sound.ask wanted
  | reserve found => exact sound.reserve found
  | refuse full => exact sound.refuse full
  | write own entry => exact sound.write own entry
  | submit _ written => exact sound.submit written
  | peek shown => exact sound.peek shown
  | read shown => exact sound.read shown
  | release shown => exact sound.release shown
  | renewProducer nothing => exact sound.renewProducer nothing
  | renewConsumer => exact sound.renewConsumer

theorem Step.size_eq (step : Step s t) : t.pair.ring.size = s.pair.ring.size := by
  cases step with
  | reserve found => exact (congrArg (·.2.ring.size) found).symm
  | refuse full => exact (congrArg (·.2.ring.size) full).symm
  | peek shown => exact (congrArg (·.2.ring.size) shown).symm
  | write own entry => simp [RingPair.mapRing]
  | _ => rfl

/-! ### Every run -/

section Runs

variable {size start : UInt32}

theorem Reachable.sound (h : Reachable size start s) : s.Sound := by
  induction h with
  | opened created =>
    obtain ⟨lawful, empty, -⟩ := Ring.create_eq_ok created
    exact sound_opened lawful empty
  | step _ step ih => exact step.sound ih

theorem Reachable.size_eq (h : Reachable size start s) : s.pair.ring.size = size := by
  induction h with
  | opened created => exact (Ring.create_eq_ok created).2.2
  | step _ step ih => exact step.size_eq.trans ih

/-- A ring is a bounded first-in first-out channel, whatever the order in which its two sides take their steps. There is
one for every size that is a power of two, wherever the cursors start.

What the consumer has read of the entries it has released is what was submitted in the same places, so a consumer that
reads everything gets a prefix of what was submitted; what has been submitted besides is what is pending. No slot that
may be written holds a pending entry. The distance of the two cursors is the number of entries under way, which is
never more than the number of slots. -/
theorem bounded_fifo (power : size.toNat.isPowerOfTwo) (start : UInt32) :
    (∃ ring : Ring α, Ring.create size start = .ok ring) ∧
      ∀ {s : Channel α}, Reachable size start s →
        (∀ {i : Nat} {x : α}, s.received[i]? = some (some x) → s.submitted[i]? = some x) ∧
        (∀ entries : List α, s.received = entries.map some → entries <+: s.submitted) ∧
        s.submitted.drop s.received.length = s.pair.ring.pending ∧
        (∀ slot ∈ s.reserved, ∀ i < s.pair.ring.pendingCount.toNat,
          s.pair.ring.slot slot.number ≠ s.pair.ring.slot (s.pair.ring.consumer + .ofNat i)) ∧
        s.pair.ring.producer - s.pair.ring.consumer ≤ size ∧
        s.received.length + (s.pair.ring.producer - s.pair.ring.consumer).toNat = s.submitted.length := by
  constructor
  · exact Ring.exists_create_eq_ok power start
  intro s h
  have sound := h.sound
  refine ⟨sound.received, ?_, sound.pending, ?_, ?_, ?_⟩
  · intro entries all
    rw [List.prefix_iff_getElem?]
    intro i lt
    apply sound.received
    rw [all, List.getElem?_map, List.getElem?_eq_getElem lt]
    rfl
  · intro slot own i lt
    obtain ⟨j, hj, eq⟩ := List.getElem_of_mem own
    exact sound.slot_ne (List.getElem?_eq_some_iff.mpr ⟨hj, eq⟩) (by omega) (by omega)
  · have bounded := sound.consumer.lawful.bounded
    rw [← sound.consumer.lawful.sized.toNat_size, h.size_eq] at bounded
    exact bounded
  · have total := congrArg List.length sound.pending
    have := sound.received_le
    rw [List.length_drop, Ring.length_pending] at total
    change _ + s.pair.ring.pendingCount.toNat = _
    omega

/-- Two entries go through a ring of two slots whose cursors wrap between them, and the first one comes out. -/
theorem bounded_fifo_over_the_wrap :
    ∃ s : Channel UInt64, Reachable 2 0xffffffff s ∧ s.submitted = [7, 8] ∧ s.received = [some 7] ∧
      s.pair.ring.producer = 1 ∧ s.pair.ring.consumer = 0 ∧ [7] <+: s.submitted ∧ [8] = s.pair.ring.pending := by
  have opened : Reachable 2 0xffffffff (Channel.opened (Ring.blank 2 0xffffffff : Ring UInt64)) := .opened rfl
  have reserved := opened.step (.reserve (rfl : RingPair.reserve _ 2 = (some 0xffffffff, _)))
  have first := reserved.step (.write (rfl : (_ : List (Reservation UInt64))[0]? = some _) 7)
  have second := first.step (.write (rfl : (_ : List (Reservation UInt64))[1]? = some _) 8)
  have submitted := (second.step (.submit [7] rfl)).step (.submit [8] rfl)
  have shown := submitted.step (.peek (rfl : RingPair.peek _ 2 = (2, _)))
  have read := shown.step (.read (Nat.zero_lt_succ _))
  have released := read.step (.release (by decide : (1 : UInt32).toNat ≤ _))
  obtain ⟨-, received, pending, -⟩ := (bounded_fifo ⟨1, rfl⟩ 0xffffffff).2 released
  exact ⟨_, released, rfl, rfl, rfl, rfl, received [7] rfl, pending⟩

end Runs

end Channel

end XdpEcho
