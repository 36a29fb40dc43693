import XdpEcho.Bytes

/-!
# IPv4 headers

An IPv4 header with its options. Its length is given in the low half of its first byte, in words of four bytes.

* `Ipv4.parse?` refuses other versions, lengths below the fixed part, and data shorter than the stated length.
* `Ipv4.parse?_eq_some_iff` — a datagram parses exactly as the well-formed header whose bytes it starts with.
-/

namespace XdpEcho

/-- The header of an IPv4 datagram. -/
structure Ipv4 where
  /-- The version in the high half, the length of the header in four-byte words in the low half. -/
  versionLength : UInt8
  service : UInt8
  totalLength : UInt16
  identification : UInt16
  fragment : UInt16
  timeToLive : UInt8
  protocol : UInt8
  checksum : UInt16
  source : Vector UInt8 4
  destination : Vector UInt8 4
  /-- What stands between the fixed part and the payload. -/
  options : Bytes
  deriving DecidableEq

namespace Ipv4

def minLength : Nat := 20

def protocolIcmp : UInt8 := 1

def version (h : Ipv4) : UInt8 := h.versionLength / 16

/-- The header length field, in words of four bytes. -/
def lengthWords (h : Ipv4) : UInt8 := h.versionLength % 16

/-- The length of the header in bytes, as the header states it. -/
def headerLength (h : Ipv4) : Nat := 4 * h.lengthWords.toNat

/-- The header is of version 4 and states a length that covers its fixed part. -/
def Admissible (h : Ipv4) : Prop :=
  h.version = 4 ∧ minLength ≤ h.headerLength

instance (h : Ipv4) : Decidable h.Admissible :=
  inferInstanceAs (Decidable (_ ∧ _))

/-- The fixed part of a header and what follows it. -/
def fixedPart? (datagram : Bytes) : Option (Ipv4 × Bytes) := do
  let (versionLength, rest) ← Bytes.byte? datagram
  let (service, rest) ← Bytes.byte? rest
  let (totalLength, rest) ← Bytes.word? rest
  let (identification, rest) ← Bytes.word? rest
  let (fragment, rest) ← Bytes.word? rest
  let (timeToLive, rest) ← Bytes.byte? rest
  let (protocol, rest) ← Bytes.byte? rest
  let (checksum, rest) ← Bytes.word? rest
  let (source, rest) ← Bytes.octets? 4 rest
  let (destination, rest) ← Bytes.octets? 4 rest
  return (⟨versionLength, service, totalLength, identification, fragment, timeToLive, protocol, checksum, source,
    destination, []⟩, rest)

/-- The header and the payload of a datagram, or `none` when there is no admissible header of the stated length. -/
def parse? (datagram : Bytes) : Option (Ipv4 × Bytes) := do
  let (header, rest) ← fixedPart? datagram
  if header.Admissible then
    let (options, payload) ← Bytes.split? (header.headerLength - minLength) rest
    return ({ header with options }, payload)
  else
    none

def encodeFixedPart (h : Ipv4) : Bytes :=
  [h.versionLength, h.service] ++ Bytes.ofWord h.totalLength ++ Bytes.ofWord h.identification ++
    Bytes.ofWord h.fragment ++ [h.timeToLive, h.protocol] ++ Bytes.ofWord h.checksum ++ h.source.toList ++
    h.destination.toList

def encode (h : Ipv4) : Bytes :=
  h.encodeFixedPart ++ h.options

/-- Sends the datagram back to its sender. The header checksum stays right, for it covers the same words. -/
def swapAddresses (h : Ipv4) : Ipv4 :=
  { h with source := h.destination, destination := h.source }

theorem fixedPart?_eq_some_iff {datagram rest : Bytes} {h : Ipv4} :
    fixedPart? datagram = some (h, rest) ↔ h.options = [] ∧ datagram = h.encodeFixedPart ++ rest := by
  obtain ⟨versionLength, service, totalLength, identification, fragment, timeToLive, protocol, checksum, source,
    destination, options⟩ := h
  simp only [fixedPart?, encodeFixedPart, Option.bind_eq_bind, Option.bind_eq_some_iff, Prod.exists,
    Bytes.byte?_eq_some_iff, Bytes.octets?_eq_some_iff, Bytes.word?_eq_some_iff, Option.pure_def,
    Option.some.injEq, Prod.mk.injEq, Ipv4.mk.injEq]
  constructor
  · rintro ⟨_, _, rfl, _, _, rfl, _, _, rfl, _, _, rfl, _, _, rfl, _, _, rfl, _, _, rfl, _, _, rfl, _, _, rfl,
      _, _, rfl, ⟨rfl, rfl, rfl, rfl, rfl, rfl, rfl, rfl, rfl, rfl, rfl⟩, rfl⟩
    simp
  · rintro ⟨rfl, rfl⟩
    refine ⟨_, _, rfl, _, _, rfl, _, _, ?_, _, _, rfl, _, _, rfl, _, _, rfl, _, _, rfl, _, _, rfl, _, _, rfl,
      _, _, rfl, ⟨rfl, rfl, rfl, rfl, rfl, rfl, rfl, rfl, rfl, rfl, rfl⟩, rfl⟩
    simp

theorem parse?_eq_some_iff {datagram payload : Bytes} {h : Ipv4} :
    parse? datagram = some (h, payload) ↔
      h.Admissible ∧ h.options.length = h.headerLength - minLength ∧ datagram = h.encode ++ payload := by
  simp only [parse?, Option.bind_eq_bind, Option.bind_eq_some_iff, Prod.exists, fixedPart?_eq_some_iff,
    Option.ite_none_right_eq_some, Bytes.split?_eq_some_iff, Option.pure_def, Option.some.injEq, Prod.mk.injEq]
  constructor
  · rintro ⟨header, rest, ⟨-, rfl⟩, admissible, options, _, ⟨rfl, hlen⟩, rfl, rfl⟩
    exact ⟨admissible, hlen, by simp [encode, encodeFixedPart]⟩
  · rintro ⟨admissible, hlen, rfl⟩
    exact ⟨{ h with options := [] }, h.options ++ payload, ⟨rfl, by simp [encode, encodeFixedPart]⟩, admissible,
      h.options, payload, ⟨rfl, hlen⟩, rfl, rfl⟩

end Ipv4

end XdpEcho
