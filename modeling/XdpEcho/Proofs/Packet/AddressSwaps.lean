import XdpEcho.Proofs.Packet.Exchange
import XdpEcho.Proofs.Packet.KindChanges

/-!
# Exchanging the addresses of a header

The two addresses of an Ethernet, IPv4 or IPv6 header are whole words and stand at even offsets. So no sum of words
notices when they trade places, however long the data are and however often the sum overflows. The rest of the header
stays, and with it all that decides whether there is a header and where it ends.

* `AddressLayer` — the layers with addresses, and where these stand.
* `AddressLayer.exchanges_of_split?` — what one exchange does to a buffer, layer by layer.
* `AddressLayer.applyInTurn_swap` — what any number of exchanges does.
* `HeaderEdit.applyInTurn_of_forall_none` — edits that do not find their header.
* `AddressLayer.swaps_are_neutral` — all of this for every buffer, with the checksums.
-/

namespace XdpEcho

/-! ### Edits that find nothing -/

/-- Edits that do not find their header leave the buffer as it is, in whatever order they come. -/
theorem HeaderEdit.applyInTurn_of_forall_none {edits : List HeaderEdit} {buffer : Bytes}
    (missing : ∀ edit ∈ edits, edit.parts? buffer = none) : applyInTurn edits buffer = buffer := by
  induction edits with
  | nil => rfl
  | cons first rest ih =>
    have still : first.apply buffer = buffer := by
      rw [apply, missing first List.mem_cons_self]
    have step : applyInTurn (first :: rest) buffer = applyInTurn rest (first.apply buffer) := rfl
    rw [step, still, ih fun edit mem => missing edit (List.mem_cons_of_mem first mem)]

/-! ### Layers with addresses -/

/-- The layers whose headers hold two addresses. -/
inductive AddressLayer where
  | ethernet
  | ipv4
  | ipv6

namespace AddressLayer

open Checksum HeaderEdit

variable {layer : AddressLayer} {buffer header payload : Bytes}

/-- The edit that exchanges the two addresses. -/
def swap : AddressLayer → HeaderEdit
  | ethernet => .swapEthernet
  | ipv4 => .swapIpv4
  | ipv6 => .swapIpv6

/-- The bytes of the header and the payload, or `none` when the buffer does not parse. The header is the whole one, with
all that stands between its addresses and the payload. -/
def split? (layer : AddressLayer) (buffer : Bytes) : Option (Bytes × Bytes) :=
  match layer with
  | ethernet => (Ethernet.parse? buffer).map fun (h, payload) => (h.encode, payload)
  | ipv4 => (Ipv4.parse? buffer).map fun (h, payload) => (h.encode, payload)
  | ipv6 => (Ipv6.parse? buffer).map fun (h, payload) => (h.encode, payload)

/-- Where the first of the two addresses begins. -/
def start : AddressLayer → Nat
  | ethernet => 0
  | ipv4 => 12
  | ipv6 => 8

/-- The bytes of one address. The second one follows the first one at once. -/
def width : AddressLayer → Nat
  | ethernet => 6
  | ipv4 => 4
  | ipv6 => 16

theorem even_start (layer : AddressLayer) : layer.start % 2 = 0 := by
  cases layer with
  | ethernet => rfl
  | ipv4 => rfl
  | ipv6 => rfl

theorem even_width (layer : AddressLayer) : layer.width % 2 = 0 := by
  cases layer with
  | ethernet => rfl
  | ipv4 => rfl
  | ipv6 => rfl

/-! ### One exchange -/

/-- What is known of a buffer that parses, and of the exchange of its addresses. -/
structure Exchanges (layer : AddressLayer) (buffer header payload : Bytes) : Prop where
  buffer_eq : buffer = header ++ payload
  /-- The addresses are a part of the header. -/
  room : layer.start + 2 * layer.width ≤ header.length
  apply_eq : layer.swap.apply buffer = Bytes.exchange layer.start layer.width header ++ payload
  /-- It parses afterwards, and is split where it was. -/
  parses : layer.split? (layer.swap.apply buffer) =
    some (Bytes.exchange layer.start layer.width header, payload)

theorem Exchanges.of_parts (buffer_eq : buffer = header ++ payload)
    (room : layer.start + 2 * layer.width ≤ header.length)
    (edited : layer.swap.parts? buffer = some (Bytes.exchange layer.start layer.width header, payload))
    (parses : layer.split? (Bytes.exchange layer.start layer.width header ++ payload) =
      some (Bytes.exchange layer.start layer.width header, payload)) : layer.Exchanges buffer header payload := by
  have apply_eq : layer.swap.apply buffer = Bytes.exchange layer.start layer.width header ++ payload := by
    rw [apply, edited]
  refine ⟨buffer_eq, room, apply_eq, ?_⟩
  rw [apply_eq, parses]

/-- Where there is a header, its addresses are exchanged, and then there is a header of the same length. -/
theorem exchanges_of_split? (found : layer.split? buffer = some (header, payload)) :
    layer.Exchanges buffer header payload := by
  cases layer with
  | ethernet =>
    obtain ⟨⟨h, _⟩, parsed, split⟩ := Option.map_eq_some_iff.mp found
    cases split
    have again : Ethernet.parse? (h.swapAddresses.encode ++ payload) = some (h.swapAddresses, payload) :=
      Ethernet.parse?_eq_some_iff.mpr rfl
    refine .of_parts (Ethernet.parse?_eq_some_iff.mp parsed) ?_ ?_ ?_
    · rw [Ethernet.length_encode]
      decide
    · simp only [swap, parts?, parsed, start, width, h.exchange_encode, Option.map_some]
    · simp only [split?, again, start, width, h.exchange_encode, Option.map_some]
  | ipv4 =>
    obtain ⟨⟨h, _⟩, parsed, split⟩ := Option.map_eq_some_iff.mp found
    cases split
    obtain ⟨admissible, options, buffer_eq⟩ := Ipv4.parse?_eq_some_iff.mp parsed
    -- Version, length and options are not among what is exchanged.
    have again : Ipv4.parse? (h.swapAddresses.encode ++ payload) = some (h.swapAddresses, payload) :=
      Ipv4.parse?_eq_some_iff.mpr ⟨admissible, options, rfl⟩
    refine .of_parts buffer_eq ?_ ?_ ?_
    · rw [Ipv4.length_encode]
      exact Nat.le_add_right _ _
    · simp only [swap, parts?, parsed, start, width, h.exchange_encode, Option.map_some]
    · simp only [split?, again, start, width, h.exchange_encode, Option.map_some]
  | ipv6 =>
    obtain ⟨⟨h, _⟩, parsed, split⟩ := Option.map_eq_some_iff.mp found
    cases split
    have again : Ipv6.parse? (h.swapAddresses.encode ++ payload) = some (h.swapAddresses, payload) :=
      Ipv6.parse?_eq_some_iff.mpr rfl
    refine .of_parts (Ipv6.parse?_eq_some_iff.mp parsed) ?_ ?_ ?_
    · rw [Ipv6.length_encode]
      decide
    · simp only [swap, parts?, parsed, start, width, h.exchange_encode, Option.map_some]
    · simp only [split?, again, start, width, h.exchange_encode, Option.map_some]

/-- Where there is no header, there is none to be edited. -/
theorem parts?_swap_eq_none (missing : layer.split? buffer = none) : layer.swap.parts? buffer = none := by
  cases layer with
  | ethernet => exact Option.map_eq_none_iff.mpr (Option.map_eq_none_iff.mp missing)
  | ipv4 => exact Option.map_eq_none_iff.mpr (Option.map_eq_none_iff.mp missing)
  | ipv6 => exact Option.map_eq_none_iff.mpr (Option.map_eq_none_iff.mp missing)

namespace Exchanges

/-- The exchange, said of the buffer as a whole. -/
theorem apply_eq_exchange (h : layer.Exchanges buffer header payload) :
    layer.swap.apply buffer = Bytes.exchange layer.start layer.width buffer := by
  rw [h.apply_eq, h.buffer_eq, Bytes.exchange_append_right h.room]

theorem room_in_buffer (h : layer.Exchanges buffer header payload) :
    layer.start + 2 * layer.width ≤ buffer.length := by
  have room := h.room
  rw [h.buffer_eq, List.length_append]
  omega

theorem apply_apply (h : layer.Exchanges buffer header payload) :
    layer.swap.apply (layer.swap.apply buffer) = buffer := by
  have again := exchanges_of_split? h.parses
  rw [again.apply_eq_exchange, h.apply_eq_exchange, Bytes.exchange_exchange h.room_in_buffer]

theorem total_apply (h : layer.Exchanges buffer header payload) : total (layer.swap.apply buffer) = total buffer := by
  rw [h.apply_eq_exchange, total_exchange layer.even_start layer.even_width h.room_in_buffer]

end Exchanges

/-! ### Any number of exchanges -/

/-- An even number of exchanges changes nothing, and an odd number of them is one. -/
theorem applyInTurn_swap (found : layer.split? buffer = some (header, payload)) (n : Nat) :
    applyInTurn (List.replicate n layer.swap) buffer = if n % 2 = 0 then buffer else layer.swap.apply buffer := by
  induction n generalizing buffer header with
  | zero => rfl
  | succ n ih =>
    have h := exchanges_of_split? found
    have step : applyInTurn (List.replicate (n + 1) layer.swap) buffer =
        applyInTurn (List.replicate n layer.swap) (layer.swap.apply buffer) := rfl
    rw [step, ih h.parses, h.apply_apply]
    by_cases even : n % 2 = 0
    · rw [if_pos even, if_neg (by omega)]
    · rw [if_neg even, if_pos (by omega)]

/-- What exchanging the addresses does to a buffer that is a header and a payload. -/
structure SwapsNeutrally (layer : AddressLayer) (buffer header payload : Bytes) : Prop where
  buffer_eq : buffer = header ++ payload
  /-- The buffer parses as before, and is split at the same place into another header and the same payload. The checksum of
  the header alone, with its options, is the same. -/
  split : ∃ turned, layer.split? (layer.swap.apply buffer) = some (turned, payload) ∧
    layer.swap.apply buffer = turned ++ payload ∧ turned.length = header.length ∧ ofBytes turned = ofBytes header
  checksum : ofBytes (layer.swap.apply buffer) = ofBytes buffer
  /-- The bytes of the two addresses trade places. -/
  traded : ∀ i, (layer.swap.apply buffer)[i]? = buffer[Bytes.partner layer.start layer.width i]?
  outside : ∀ i, i < layer.start ∨ layer.start + 2 * layer.width ≤ i → (layer.swap.apply buffer)[i]? = buffer[i]?
  twice : layer.swap.apply (layer.swap.apply buffer) = buffer
  /-- Any number of exchanges leaves one of two buffers. -/
  inTurn : ∀ n, applyInTurn (List.replicate n layer.swap) buffer =
    if n % 2 = 0 then buffer else layer.swap.apply buffer
  checksumInTurn : ∀ n, ofBytes (applyInTurn (List.replicate n layer.swap) buffer) = ofBytes buffer

/-- Exchanging the addresses of a header is its own inverse, and no checksum notices. Take any buffer that begins with an
Ethernet header, an IPv4 header of whatever length, or an IPv6 header, and that is as long as it likes. After an exchange
its checksum is the one of before, and so is the checksum of the header alone; each byte outside the two addresses is what
it was, and there is a header of the same length in front of the same payload. A second exchange restores the buffer, so
any number of them leaves one of two buffers with one checksum. A buffer without such a header is left alone by any number
of exchanges, and more than that, by any edits of headers that it does not begin with. -/
theorem swaps_are_neutral (layer : AddressLayer) (buffer : Bytes) :
    (∀ header payload, layer.split? buffer = some (header, payload) →
        layer.SwapsNeutrally buffer header payload) ∧
      (layer.split? buffer = none → ∀ n, applyInTurn (List.replicate n layer.swap) buffer = buffer) ∧
      ∀ edits : List HeaderEdit, (∀ edit ∈ edits, edit.parts? buffer = none) → applyInTurn edits buffer = buffer := by
  refine ⟨fun header payload found => ?_, fun missing n => ?_, fun edits => applyInTurn_of_forall_none⟩
  · have h := exchanges_of_split? found
    have checksum : ofBytes (layer.swap.apply buffer) = ofBytes buffer := ofBytes_congr h.total_apply
    have alone : ofBytes (Bytes.exchange layer.start layer.width header) = ofBytes header :=
      ofBytes_congr (total_exchange layer.even_start layer.even_width h.room)
    have traded : ∀ i, (layer.swap.apply buffer)[i]? = buffer[Bytes.partner layer.start layer.width i]? := by
      intro i
      rw [h.apply_eq_exchange, Bytes.getElem?_exchange h.room_in_buffer]
    refine ⟨h.buffer_eq, ⟨_, h.parses, h.apply_eq, Bytes.length_exchange h.room, alone⟩, checksum, traded, ?_,
      h.apply_apply, applyInTurn_swap found, fun n => ?_⟩
    · intro i outside
      rw [traded, Bytes.partner_of_outside outside]
    · rw [applyInTurn_swap found]
      split
      next => rfl
      next => exact checksum
  · refine applyInTurn_of_forall_none fun edit mem => ?_
    rw [List.eq_of_mem_replicate mem]
    exact parts?_swap_eq_none missing

/-- A datagram with options in its header and one byte behind it is turned around three times, and data that state another
version are not turned around at all. -/
theorem swaps_are_neutral_with_options :
    let header : Bytes := [0x46, 0, 0, 25, 0, 0, 0, 0, 64, 1, 0x64, 0xdf, 10, 0, 0, 1, 10, 0, 0, 2, 1, 1, 1, 0]
    let turned : Bytes := [0x46, 0, 0, 25, 0, 0, 0, 0, 64, 1, 0x64, 0xdf, 10, 0, 0, 2, 10, 0, 0, 1, 1, 1, 1, 0]
    let other : Bytes := [0x66, 0, 0, 25, 0, 0, 0, 0, 64, 1, 0x64, 0xdf, 10, 0, 0, 1, 10, 0, 0, 2, 1, 1, 1, 0]
    ipv4.split? (header ++ [0xab]) = some (header, [0xab]) ∧
      applyInTurn [swapIpv4, swapIpv4, swapIpv4] (header ++ [0xab]) = turned ++ [0xab] ∧
      ofBytes (turned ++ [0xab]) = ofBytes (header ++ [0xab]) ∧
      ipv4.split? other = none ∧ applyInTurn [swapIpv4, swapIpv4, swapIpv4] other = other ∧
      swapIpv6.parts? other = none ∧ applyInTurn [swapIpv4, swapIpv6] other = other := by
  intro header turned other
  have found : ipv4.split? (header ++ [0xab]) = some (header, [0xab]) := by decide
  have missing : ipv4.split? other = none := by decide
  have once : swapIpv4.apply (header ++ [0xab]) = turned ++ [0xab] := by decide
  obtain ⟨neutral, -, -⟩ := swaps_are_neutral ipv4 (header ++ [0xab])
  obtain ⟨-, still, mixed⟩ := swaps_are_neutral ipv4 other
  have h := neutral header [0xab] found
  have checksum := h.checksum
  rw [swap, once] at checksum
  refine ⟨found, (h.inTurn 3).trans once, checksum, missing, still missing 3, by decide, ?_⟩
  exact mixed [swapIpv4, swapIpv6] (by decide)

end AddressLayer

end XdpEcho
