import XdpEcho.Bytes

/-!
# IPv6 headers

The fixed header of an IPv6 datagram. Extension headers count as payload.

* `Ipv6.parse?` asks for nothing but enough bytes, `Ipv6.encode` writes the header back.
* `Ipv6.parse?_eq_some_iff` — a datagram parses exactly as the header whose bytes it starts with.
-/

namespace XdpEcho

/-- The fixed header of an IPv6 datagram. -/
structure Ipv6 where
  versionClassFlow : Vector UInt8 4
  payloadLength : UInt16
  nextHeader : UInt8
  hopLimit : UInt8
  source : Vector UInt8 16
  destination : Vector UInt8 16
  deriving DecidableEq

namespace Ipv6

def headerLength : Nat := 40

def protocolIcmp : UInt8 := 58

def version (h : Ipv6) : UInt8 := h.versionClassFlow[0] / 16

/-- The header and the payload of a datagram, or `none` for one shorter than a header. -/
def parse? (datagram : Bytes) : Option (Ipv6 × Bytes) := do
  let (versionClassFlow, rest) ← Bytes.octets? 4 datagram
  let (payloadLength, rest) ← Bytes.word? rest
  let (nextHeader, rest) ← Bytes.byte? rest
  let (hopLimit, rest) ← Bytes.byte? rest
  let (source, rest) ← Bytes.octets? 16 rest
  let (destination, payload) ← Bytes.octets? 16 rest
  return (⟨versionClassFlow, payloadLength, nextHeader, hopLimit, source, destination⟩, payload)

def encode (h : Ipv6) : Bytes :=
  h.versionClassFlow.toList ++ Bytes.ofWord h.payloadLength ++ [h.nextHeader, h.hopLimit] ++ h.source.toList ++
    h.destination.toList

def swapAddresses (h : Ipv6) : Ipv6 :=
  { h with source := h.destination, destination := h.source }

theorem parse?_eq_some_iff {datagram payload : Bytes} {h : Ipv6} :
    parse? datagram = some (h, payload) ↔ datagram = h.encode ++ payload := by
  obtain ⟨versionClassFlow, payloadLength, nextHeader, hopLimit, source, destination⟩ := h
  simp only [parse?, encode, Option.bind_eq_bind, Option.bind_eq_some_iff, Prod.exists, Bytes.byte?_eq_some_iff,
    Bytes.octets?_eq_some_iff, Bytes.word?_eq_some_iff, Option.pure_def, Option.some.injEq, Prod.mk.injEq,
    Ipv6.mk.injEq]
  constructor
  · rintro ⟨_, _, rfl, _, _, rfl, _, _, rfl, _, _, rfl, _, _, rfl, _, _, rfl,
      ⟨rfl, rfl, rfl, rfl, rfl, rfl⟩, rfl⟩
    simp
  · rintro rfl
    refine ⟨_, _, ?_, _, _, rfl, _, _, rfl, _, _, rfl, _, _, rfl, _, _, rfl,
      ⟨rfl, rfl, rfl, rfl, rfl, rfl⟩, rfl⟩
    simp

end Ipv6

end XdpEcho
