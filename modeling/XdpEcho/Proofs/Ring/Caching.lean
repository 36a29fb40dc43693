import Mathlib.Logic.Relation
import XdpEcho.Proofs.Ring.Channel

/-!
# Looking at a cursor only when needed

A view looks at the cursor of the other side only when what it remembers is too little. This saves the look and nothing
else can be told from it: a producer gets the slots that it would get if it looked each time, under the same numbers,
and a consumer that is shown nothing has nothing left to be shown.

* `Producer.reload`, `Channel.reloaded` — a producer, and a channel, right after a look at the consumer cursor.
* `Channel.Reloading` — the states that a channel gets to when the producer looks before each step.
* `Channel.Drain` — a consumer that peeks and releases until it is shown nothing.
* `Producer.Tracks.reserve_eq` — what a reservation finds does not depend on what the producer remembers.
* `Channel.Step.withLimit` — nor does any step, so the two producers run side by side.
* `Channel.caching_transparent` — what either side is told, in terms of what has gone through the channel.
-/

namespace XdpEcho

variable {α : Type}

/-! ### One view -/

namespace Producer

/-- The producer after a look at the consumer cursor of its ring. -/
def reload (p : Producer) (r : Ring α) : Producer :=
  { p with limit := r.consumer + p.size }

namespace Tracks

variable {p : Producer} {r : Ring α} {reserved : Nat}

theorem reload (tracks : p.Tracks r reserved) : (p.reload r).Tracks r reserved := by
  refine ⟨tracks.sized, tracks.size, tracks.next, ?_⟩
  have room := tracks.room
  have refreshed := tracks.toNat_refreshed
  simp only [Producer.reload, refreshed]
  rw [Ring.freeSlots]
  omega

/-- Whether a reservation succeeds, and with which number, does not depend on what the producer remembers. -/
theorem reserve_eq (tracks : p.Tracks r reserved) (count : UInt32) :
    ∃ limit, p.reserve r.consumer count =
      if count.toNat ≤ r.freeSlots reserved then (some p.next, { p with next := p.next + count, limit })
      else (none, { p with limit }) := by
  obtain ⟨limit, asked⟩ := p.freeEntries_eq r.consumer count
  obtain ⟨-, -, -, least⟩ := tracks.freeEntries asked
  refine ⟨limit, ?_⟩
  by_cases fits : count.toNat ≤ r.freeSlots reserved
  · have enough : ¬ limit - p.next < count := by
      rw [UInt32.lt_iff_toNat_lt]
      omega
    simp only [reserve, asked, if_neg enough, if_pos fits]
  · have short : limit - p.next < count := by
      rw [UInt32.lt_iff_toNat_lt]
      omega
    simp only [reserve, asked, if_pos short, if_neg fits]

end Tracks

end Producer

/-- A consumer is shown nothing when nothing is pending, and not otherwise; and it is shown pending entries only. -/
theorem Consumer.Tracks.peek_counts {c c' : Consumer} {r : Ring α} (tracks : c.Tracks r) {count available : UInt32}
    (asked : c.peek r.producer count = (available, c')) :
    (count ≠ 0 → (available = 0 ↔ r.pendingCount.toNat = 0)) ∧
      available.toNat ≤ min count.toNat r.pendingCount.toNat := by
  obtain ⟨tracks', -, least, -, -, none⟩ := tracks.peek asked
  have known := tracks'.known
  refine ⟨fun some => ?_, by omega⟩
  have some' : count.toNat ≠ 0 := fun zero => some (UInt32.toNat_inj.mp zero)
  rw [← UInt32.toNat_inj, UInt32.toNat_zero]
  constructor
  · intro nothing
    have up : c'.limit - c'.next = 0 := by
      rw [← UInt32.toNat_inj, UInt32.toNat_zero]
      omega
    rw [none ((UInt32.sub_eq_iff_eq_add.mp up).trans (UInt32.zero_add _)), UInt32.toNat_zero]
  · intro nothing
    omega

namespace Channel

/-! ### What one side does to a channel -/

/-- The same channel, with a producer that remembers another cursor. -/
def withLimit (s : Channel α) (limit : UInt32) : Channel α :=
  { s with pair := { s.pair with producer := { s.pair.producer with limit } } }

/-- The channel right after the producer has looked at the consumer cursor. -/
def reloaded (s : Channel α) : Channel α :=
  { s with pair := { s.pair with producer := s.pair.producer.reload s.pair.ring } }

/-- Asking for free slots changes no more than what the producer remembers. -/
theorem freeEntries_eq_withLimit (s : Channel α) (wanted : UInt32) :
    ∃ limit, (s.pair.freeEntries wanted).2 = (s.withLimit limit).pair := by
  obtain ⟨limit, asked⟩ := s.pair.producer.freeEntries_eq s.pair.ring.consumer wanted
  refine ⟨limit, ?_⟩
  rw [RingPair.freeEntries, asked]
  rfl

/-- The channel after the consumer has been shown entries. -/
def peeked (s : Channel α) (pair : RingPair α) (available : UInt32) : Channel α :=
  { s with pair, readings := s.readings ++ List.replicate (available.toNat - s.readings.length) none }

/-- The channel after the consumer has released entries. -/
def released (s : Channel α) (count : UInt32) : Channel α :=
  { s with
    pair := s.pair.release count
    readings := s.readings.drop count.toNat
    received := s.received ++ s.readings.take count.toNat }

/-- All that has just been shown can be released. -/
theorem le_length_peeked (s : Channel α) (pair : RingPair α) (available : UInt32) :
    available.toNat ≤ (s.peeked pair available).readings.length := by
  simp only [peeked, List.length_append, List.length_replicate]
  omega

variable [Inhabited α] {s t u : Channel α} {size start : UInt32}

/-! ### Two producers side by side -/

/-- The states that two sides can get a ring to when the producer looks at the consumer cursor before each step. -/
inductive Reloading (size start : UInt32) : Channel α → Prop
  | opened {ring : Ring α} (created : Ring.create size start = .ok ring) : Reloading size start (opened ring)
  | step {s t : Channel α} : Reloading size start s → Step s.reloaded t → Reloading size start t

theorem Sound.reloaded (sound : s.Sound) : s.reloaded.Sound :=
  { sound with producer := sound.producer.reload }

/-- What a reservation leaves behind differs only in what the producer remembers of the consumer cursor. -/
theorem Sound.reserve_eq (sound : s.Sound) (count : UInt32) :
    ∃ limit, s.pair.reserve count =
      if count.toNat ≤ s.pair.ring.freeSlots s.reserved.length then
        (some s.pair.producer.next,
          { s.pair with producer := { s.pair.producer with next := s.pair.producer.next + count, limit } })
      else (none, (s.withLimit limit).pair) := by
  obtain ⟨limit, found⟩ := sound.producer.reserve_eq count
  refine ⟨limit, ?_⟩
  by_cases fits : count.toNat ≤ s.pair.ring.freeSlots s.reserved.length
  · rw [if_pos fits] at found ⊢
    rw [RingPair.reserve, found]
  · rw [if_neg fits] at found ⊢
    rw [RingPair.reserve, found]
    rfl

/-- A step can be made whatever the producer remembers, and leads to the same but for that. -/
theorem Step.withLimit {limit : UInt32} (step : Step s t) (sound : s.Sound) (sound' : (s.withLimit limit).Sound) :
    ∃ limit', Step (s.withLimit limit) (t.withLimit limit') := by
  cases step with
  | ask wanted =>
    obtain ⟨known, eq⟩ := s.freeEntries_eq_withLimit wanted
    obtain ⟨known', eq'⟩ := (s.withLimit limit).freeEntries_eq_withLimit wanted
    have asked := Step.ask (s.withLimit limit) wanted
    rw [eq'] at asked
    rw [eq]
    exact ⟨known', asked⟩
  | @reserve count number pair found =>
    obtain ⟨known, eq⟩ := sound.reserve_eq count
    obtain ⟨known', eq'⟩ := sound'.reserve_eq count
    by_cases fits : count.toNat ≤ s.pair.ring.freeSlots s.reserved.length
    · rw [if_pos fits] at eq
      have eq' := eq'.trans (if_pos fits)
      cases eq.symm.trans found
      exact ⟨known', .reserve eq'⟩
    · rw [if_neg fits] at eq
      cases eq.symm.trans found
  | @refuse count pair full =>
    obtain ⟨known, eq⟩ := sound.reserve_eq count
    obtain ⟨known', eq'⟩ := sound'.reserve_eq count
    by_cases fits : count.toNat ≤ s.pair.ring.freeSlots s.reserved.length
    · rw [if_pos fits] at eq
      cases eq.symm.trans full
    · rw [if_neg fits] at eq
      have eq' := eq'.trans (if_neg fits)
      cases eq.symm.trans full
      exact ⟨known', .refuse eq'⟩
  | write own entry => exact ⟨limit, .write (s := s.withLimit limit) own entry⟩
  | submit entries written => exact ⟨limit, .submit (s := s.withLimit limit) entries written⟩
  | @peek count available pair shown =>
    cases shown
    exact ⟨limit, .peek (s := s.withLimit limit) rfl⟩
  | read shown => exact ⟨limit, .read (s := s.withLimit limit) shown⟩
  | release shown => exact ⟨limit, .release (s := s.withLimit limit) shown⟩
  | renewProducer nothing => exact ⟨_, .renewProducer (s := s.withLimit limit) nothing⟩
  | renewConsumer => exact ⟨limit, .renewConsumer (s.withLimit limit)⟩

/-- A channel can be got to whether the producer remembers the consumer cursor or looks at it before each step. -/
theorem Reachable.reloading (h : Reachable size start s) : ∃ limit, Reloading size start (s.withLimit limit) := by
  induction h with
  | @opened ring created => exact ⟨_, .opened created⟩
  | @step s t h step ih =>
    obtain ⟨limit, ih⟩ := ih
    obtain ⟨limit', step'⟩ := step.withLimit h.sound h.sound.reloaded
    exact ⟨limit', .step ih step'⟩

theorem Reloading.reachable (h : Reloading size start s) : ∃ limit, Reachable size start (s.withLimit limit) := by
  induction h with
  | @opened ring created => exact ⟨_, .opened created⟩
  | @step s t _ step ih =>
    obtain ⟨limit, ih⟩ := ih
    have sound : (s.reloaded.withLimit limit).Sound := ih.sound
    obtain ⟨limit', step'⟩ := step.withLimit ih.sound.reloaded sound
    exact ⟨limit', .step ih step'⟩

/-! ### What has gone through a channel -/

/-- How many entries are reserved and not yet released, published or not. -/
def held (s : Channel α) : Nat :=
  s.reserved.length + (s.submitted.length - s.received.length)

theorem Sound.pendingCount_eq (sound : s.Sound) :
    s.pair.ring.pendingCount.toNat = s.submitted.length - s.received.length := by
  have pending := congrArg List.length sound.pending
  rw [List.length_drop, Ring.length_pending] at pending
  exact pending.symm

theorem Step.producer_eq (step : Step s t) (counted : s.pair.ring.producer = start + .ofNat s.submitted.length) :
    t.pair.ring.producer = start + .ofNat t.submitted.length := by
  cases step with
  | reserve found => exact (congrArg (·.2.ring.producer) found).symm.trans counted
  | refuse full => exact (congrArg (·.2.ring.producer) full).symm.trans counted
  | peek shown => exact (congrArg (·.2.ring.producer) shown).symm.trans counted
  | submit entries written =>
    rw [List.length_append, UInt32.ofNat_add, ← UInt32.add_assoc, ← counted]
    rfl
  | _ => exact counted

theorem Reachable.producer_eq (h : Reachable size start s) :
    s.pair.ring.producer = start + .ofNat s.submitted.length := by
  induction h with
  | @opened ring created =>
    rw [Ring.create] at created
    split at created
    next =>
      cases created
      exact (UInt32.add_zero start).symm
    next => cases created
  | step _ step ih => exact step.producer_eq ih

theorem Reachable.freeSlots_eq (h : Reachable size start s) :
    s.pair.ring.freeSlots s.reserved.length = size.toNat - s.held := by
  have slots := h.sound.producer.sized.toNat_size
  rw [h.size_eq] at slots
  rw [Ring.freeSlots, h.sound.pendingCount_eq, slots, held]
  omega

theorem Step.submitted_prefix (step : Step s t) : s.submitted <+: t.submitted := by
  cases step with
  | submit entries written => exact List.prefix_append s.submitted entries
  | _ => exact List.prefix_refl _

/-! ### Draining a channel -/

/-- A step that neither shows nor releases anything: one of the producer, or a reading of the consumer. -/
structure Aside (s t : Channel α) : Prop where
  step : Step s t
  view : t.pair.consumer = s.pair.consumer
  shown : t.readings.length = s.readings.length
  received : t.received = s.received

/-- The consumer peeks at no more than `count` entries and releases all that it is shown, again and again until it is
shown nothing. The producer may go on all the while. -/
inductive Drain (count : UInt32) : Channel α → Channel α → Prop
  | last {s : Channel α} {pair : RingPair α} (nothing : s.pair.peek count = (0, pair)) : Drain count s (s.peeked pair 0)
  | visit {s t u : Channel α} {available : UInt32} {pair : RingPair α} (shown : s.pair.peek count = (available, pair))
      (some : available ≠ 0) (meanwhile : Relation.ReflTransGen Aside (s.peeked pair available) t)
      (later : Drain count (t.released available) u) : Drain count s u
  | aside {s t u : Channel α} (aside : Aside s t) (later : Drain count t u) : Drain count s u

/-- What the consumer is shown is under way, and it is shown nothing only when nothing is. -/
theorem Sound.peek_counts (sound : s.Sound) {count available : UInt32} {pair : RingPair α}
    (shown : s.pair.peek count = (available, pair)) :
    (count ≠ 0 → (available = 0 ↔ s.received.length = s.submitted.length)) ∧
      available.toNat ≤ min count.toNat (s.submitted.length - s.received.length) := by
  obtain ⟨available', c, asked⟩ : ∃ a c, s.pair.consumer.peek s.pair.ring.producer count = (a, c) := ⟨_, _, rfl⟩
  have counts := sound.consumer.peek_counts asked
  have le := sound.received_le
  rw [sound.pendingCount_eq] at counts
  rw [RingPair.peek, asked] at shown
  cases shown
  refine ⟨fun some => (counts.1 some).trans ?_, counts.2⟩
  omega

theorem Aside.kept (asides : Relation.ReflTransGen Aside s t) (h : Reachable size start s) :
    Reachable size start t ∧ s.submitted <+: t.submitted ∧ t.readings.length = s.readings.length := by
  induction asides with
  | refl => exact ⟨h, List.prefix_refl _, rfl⟩
  | tail _ aside ih =>
    obtain ⟨reached, kept, readings⟩ := ih
    exact ⟨reached.step aside.step, kept.trans aside.step.submitted_prefix, aside.shown.trans readings⟩

/-- A consumer that goes on until it is shown nothing has got all that had been published by then. -/
theorem Drain.received_all {count : UInt32} (drain : Drain count s t) (some : count ≠ 0) (h : Reachable size start s) :
    Reachable size start t ∧ s.submitted <+: t.submitted ∧ t.received.length = t.submitted.length := by
  induction drain with
  | @last s pair nothing =>
    exact ⟨h.step (.peek nothing), List.prefix_refl _, ((h.sound.peek_counts nothing).1 some).mp rfl⟩
  | @visit s t u available pair shown _ meanwhile _ ih =>
    obtain ⟨reached, kept, readings⟩ := Aside.kept meanwhile (h.step (.peek shown))
    have own : available.toNat ≤ t.readings.length := readings ▸ s.le_length_peeked pair available
    obtain ⟨reached', kept', all⟩ := ih (reached.step (.release own))
    exact ⟨reached', kept.trans kept', all⟩
  | aside aside _ ih =>
    obtain ⟨reached, kept, all⟩ := ih (h.step aside.step)
    exact ⟨reached, aside.step.submitted_prefix.trans kept, all⟩

/-- Such a consumer comes to an end while the producer rests. -/
theorem Reachable.exists_drain (h : Reachable size start s) (count : UInt32) :
    ∃ t, Drain count s t ∧ t.submitted = s.submitted := by
  -- Each visit but the last releases something, so less is under way after it.
  induction left : s.submitted.length - s.received.length using Nat.strong_induction_on generalizing s with
  | _ n ih =>
    obtain ⟨available, pair, shown⟩ : ∃ available pair, s.pair.peek count = (available, pair) := ⟨_, _, rfl⟩
    by_cases nothing : available = 0
    · subst nothing
      exact ⟨_, .last shown, rfl⟩
    · have own := s.le_length_peeked pair available
      have reached := (h.step (.peek shown)).step (.release own)
      have counts := (h.sound.peek_counts shown).2
      have positive : available.toNat ≠ 0 := fun zero => nothing (UInt32.toNat_inj.mp zero)
      have fewer : s.submitted.length - ((s.peeked pair available).released available).received.length < n := by
        have grown : ((s.peeked pair available).released available).received.length =
            s.received.length + available.toNat := by
          rw [released, List.length_append, List.length_take_of_le own]
          rfl
        omega
      obtain ⟨t, drain, same⟩ := ih _ fewer reached rfl
      exact ⟨t, .visit shown nothing .refl drain, same⟩

/-! ### What either side is told -/

theorem Reachable.held_le (h : Reachable size start s) : s.held ≤ size.toNat := by
  have room := h.sound.producer.room
  have slots := h.sound.producer.sized.toNat_size
  rw [h.size_eq] at slots
  rw [h.sound.pendingCount_eq] at room
  rw [held]
  omega

theorem Sound.fst_reserve (sound : s.Sound) (count : UInt32) :
    (s.pair.reserve count).1 =
      if count.toNat ≤ s.pair.ring.freeSlots s.reserved.length then some s.pair.producer.next else none := by
  obtain ⟨limit, eq⟩ := sound.reserve_eq count
  rw [eq]
  split
  next => rfl
  next => rfl

/-- The numbers of reservations go on from all that have been reserved before, across the wrap of the cursors. -/
theorem Reachable.next_eq (h : Reachable size start s) :
    s.pair.producer.next = start + .ofNat (s.submitted.length + s.reserved.length) := by
  rw [h.sound.producer.next, h.producer_eq, UInt32.add_assoc, UInt32.ofNat_add]

/-- Looking at a cursor only when needed cannot be told from looking at it each time, whatever the size of the ring,
wherever its cursors start, and in whatever order the two sides take their steps.

A producer that looks before each step gets to the same states, and a reservation finds the same there. It succeeds
exactly when as many slots as are asked for are neither reserved nor still under way, and its number goes on from all
that were reserved before. Asked for free slots a producer tells of free ones only, and of enough of them when there are
enough. A consumer is shown nothing exactly when all that was published has been released, and is never shown more than
what has not. Peeking and releasing until it is shown nothing it comes to an end while the producer rests, and has got
by then all that was published before its last look, whatever the producer has done meanwhile. -/
theorem caching_transparent (power : size.toNat.isPowerOfTwo) (start : UInt32) :
    (∃ s : Channel α, Reachable size start s) ∧
      (∀ s : Channel α, Reloading size start s → ∃ limit, Reachable size start (s.withLimit limit)) ∧
      ∀ {s : Channel α}, Reachable size start s →
        s.held ≤ size.toNat ∧ s.received.length ≤ s.submitted.length ∧
        (∃ limit, Reloading size start (s.withLimit limit) ∧
          ∀ count : UInt32, (s.pair.reserve count).1 = ((s.withLimit limit).reloaded.pair.reserve count).1) ∧
        (∀ count : UInt32, (s.pair.reserve count).1 =
          if count.toNat ≤ size.toNat - s.held then some (start + .ofNat (s.submitted.length + s.reserved.length))
          else none) ∧
        (∀ wanted : UInt32,
          min (s.pair.freeEntries wanted).1.toNat wanted.toNat = min (size.toNat - s.held) wanted.toNat ∧
          (s.pair.freeEntries wanted).1.toNat ≤ size.toNat - s.held) ∧
        (∀ count : UInt32,
          (count ≠ 0 → ((s.pair.peek count).1 = 0 ↔ s.received.length = s.submitted.length)) ∧
          (s.pair.peek count).1.toNat ≤ min count.toNat (s.submitted.length - s.received.length)) ∧
        ∀ count : UInt32, count ≠ 0 →
          (∃ t, Drain count s t ∧ t.submitted = s.submitted) ∧
          ∀ t, Drain count s t → s.submitted <+: t.submitted ∧ t.received.length = t.submitted.length := by
  refine ⟨?_, fun _ => Reloading.reachable, fun {s} h => ⟨h.held_le, h.sound.received_le, ?_, ?_, ?_, ?_, ?_⟩⟩
  · obtain ⟨ring, created⟩ := Ring.exists_create_eq_ok (α := α) power start
    exact ⟨opened ring, .opened created⟩
  · obtain ⟨limit, reloading⟩ := h.reloading
    have same (count : UInt32) := (h.sound.fst_reserve count).trans (h.sound.reloaded.fst_reserve count).symm
    exact ⟨limit, reloading, same⟩
  · intro count
    rw [h.sound.fst_reserve, h.freeSlots_eq, h.next_eq]
  · intro wanted
    have asked : s.pair.producer.freeEntries s.pair.ring.consumer wanted = (_, _) := rfl
    obtain ⟨tracks, -, known, least⟩ := h.sound.producer.freeEntries asked
    have bound := tracks.le_freeSlots
    rw [← known] at bound
    rw [h.freeSlots_eq] at least bound
    exact ⟨least, bound⟩
  · exact fun count => h.sound.peek_counts rfl
  · intro count some
    refine ⟨h.exists_drain count, fun t drain => ?_⟩
    exact (drain.received_all some h).2

/-- A producer that has filled a ring of two slots knows of no free one, and reserves the one that has been released
since, across the wrap of the cursors. -/
theorem caching_transparent_over_the_wrap :
    ∃ s : Channel UInt64, Reachable 2 0xffffffff s ∧ s.pair.producer.limit - s.pair.producer.next = 0 ∧
      (s.pair.reserve 1).1 = some 1 ∧ (s.pair.reserve 2).1 = none ∧ (s.pair.peek 2).1 ≠ 0 ∧
      ∃ t, Drain 2 s t ∧ t.received.length = 2 := by
  have opened : Reachable 2 0xffffffff (Channel.opened (Ring.blank 2 0xffffffff : Ring UInt64)) := .opened rfl
  have reserved := opened.step (.reserve (rfl : RingPair.reserve _ 2 = (some 0xffffffff, _)))
  have first := reserved.step (.write (rfl : (_ : List (Reservation UInt64))[0]? = some _) 7)
  have second := first.step (.write (rfl : (_ : List (Reservation UInt64))[1]? = some _) 8)
  have submitted := second.step (.submit [7, 8] rfl)
  have shown := submitted.step (.peek (rfl : RingPair.peek _ 2 = (2, _)))
  have released := shown.step (.release (by decide : (1 : UInt32).toNat ≤ _))
  have power : (2 : UInt32).toNat.isPowerOfTwo := ⟨1, rfl⟩
  obtain ⟨-, -, transparent⟩ := caching_transparent (α := UInt64) power 0xffffffff
  obtain ⟨-, -, -, reserve, -, peek, drain⟩ := transparent released
  obtain ⟨⟨t, ends, same⟩, all⟩ := drain 2 (by decide)
  refine ⟨_, released, rfl, (reserve 1).trans rfl, (reserve 2).trans rfl, ?_, t, ends, ?_⟩
  · intro nothing
    exact absurd (((peek 2).1 (by decide)).mp nothing) (by decide)
  · rw [(all t ends).2, same]
    rfl

end Channel

end XdpEcho
