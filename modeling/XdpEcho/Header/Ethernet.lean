import XdpEcho.Bytes

/-!
# Ethernet headers

An Ethernet II header without VLAN tags: two link addresses and the type of what follows.

* `Ethernet.parse?` takes a header off the front of a frame, `Ethernet.encode` writes it back.
* `Ethernet.parse?_eq_some_iff` — a frame parses exactly as the header whose bytes it starts with.
-/

namespace XdpEcho

abbrev MacAddress := Vector UInt8 6

/-- The header of an Ethernet II frame. -/
structure Ethernet where
  destination : MacAddress
  source : MacAddress
  etherType : UInt16
  deriving DecidableEq

namespace Ethernet

def headerLength : Nat := 14

def typeIpv4 : UInt16 := 0x0800

def typeIpv6 : UInt16 := 0x86dd

/-- The header and the payload of a frame, or `none` for a frame shorter than a header. -/
def parse? (frame : Bytes) : Option (Ethernet × Bytes) := do
  let (destination, rest) ← Bytes.octets? 6 frame
  let (source, rest) ← Bytes.octets? 6 rest
  let (etherType, payload) ← Bytes.word? rest
  return (⟨destination, source, etherType⟩, payload)

def encode (h : Ethernet) : Bytes :=
  h.destination.toList ++ h.source.toList ++ Bytes.ofWord h.etherType

def swapAddresses (h : Ethernet) : Ethernet :=
  { h with destination := h.source, source := h.destination }

theorem parse?_eq_some_iff {frame payload : Bytes} {h : Ethernet} :
    parse? frame = some (h, payload) ↔ frame = h.encode ++ payload := by
  obtain ⟨destination, source, etherType⟩ := h
  simp only [parse?, encode, Option.bind_eq_bind, Option.bind_eq_some_iff, Prod.exists,
    Bytes.octets?_eq_some_iff, Bytes.word?_eq_some_iff, Option.pure_def, Option.some.injEq, Prod.mk.injEq,
    Ethernet.mk.injEq]
  constructor
  · rintro ⟨_, _, rfl, _, _, rfl, _, _, rfl, ⟨rfl, rfl, rfl⟩, rfl⟩
    simp
  · rintro rfl
    exact ⟨_, _, by rw [List.append_assoc, List.append_assoc], _, _, rfl, _, _, rfl, ⟨rfl, rfl, rfl⟩, rfl⟩

end Ethernet

end XdpEcho
