import XdpEcho.Header.Ethernet
import XdpEcho.Header.Icmp
import XdpEcho.Header.Ipv4
import XdpEcho.Header.Ipv6

/-!
# Headers in front of enough bytes

Nothing but the number of bytes decides whether there is an Ethernet, IPv6 or ICMP header in front, and for an IPv4 header
whether there is its fixed part.

* `Bytes.exists_octets`, `Bytes.exists_byte`, `Bytes.exists_word` — enough bytes begin with a field.
* `Ethernet.exists_encode`, `Ipv4.exists_encodeFixedPart`, `Ipv6.exists_encode`, `Icmp.exists_encode` — enough bytes begin
  with a header. The first three also say how many bytes are left.
-/

namespace XdpEcho

namespace Bytes

variable {b : Bytes} {more : Nat}

theorem exists_octets (n : Nat) (long : n + more ≤ b.length) :
    ∃ (v : Vector UInt8 n) (rest : Bytes), b = v.toList ++ rest ∧ more ≤ rest.length := by
  obtain ⟨v, rest, taken⟩ : ∃ v rest, octets? n b = some (v, rest) := by
    rw [octets?, dif_pos (by omega)]
    exact ⟨_, _, rfl⟩
  obtain rfl := octets?_eq_some_iff.mp taken
  rw [List.length_append, Vector.length_toList] at long
  exact ⟨v, rest, rfl, by omega⟩

theorem exists_byte (long : 1 + more ≤ b.length) : ∃ x rest, b = x :: rest ∧ more ≤ rest.length := by
  cases b with
  | nil =>
    rw [List.length_nil] at long
    omega
  | cons x rest =>
    rw [List.length_cons] at long
    exact ⟨x, rest, rfl, by omega⟩

theorem exists_word (long : 2 + more ≤ b.length) : ∃ w rest, b = ofWord w ++ rest ∧ more ≤ rest.length := by
  have long : 1 + (1 + more) ≤ b.length := by omega
  obtain ⟨hi, rest, e₁, long⟩ := exists_byte long
  obtain ⟨lo, rest, e₂, long⟩ := exists_byte long
  exact ⟨word hi lo, rest, by rw [e₁, e₂, ofWord_word]; rfl, long⟩

end Bytes

/-- Enough bytes are an Ethernet header and a payload. -/
theorem Ethernet.exists_encode {frame : Bytes} {more : Nat} (long : headerLength + more ≤ frame.length) :
    ∃ (h : Ethernet) (payload : Bytes), frame = h.encode ++ payload ∧ more ≤ payload.length := by
  have long : 6 + (6 + (2 + more)) ≤ frame.length := by
    rw [headerLength] at long
    omega
  obtain ⟨destination, rest, e₁, long⟩ := Bytes.exists_octets 6 long
  obtain ⟨source, rest, e₂, long⟩ := Bytes.exists_octets 6 long
  obtain ⟨etherType, payload, e₃, long⟩ := Bytes.exists_word long
  exact ⟨⟨destination, source, etherType⟩, payload, by simp [encode, e₁, e₂, e₃], long⟩

/-- Enough bytes are the fixed part of an IPv4 header and what follows it. -/
theorem Ipv4.exists_encodeFixedPart {datagram : Bytes} {more : Nat} (long : minLength + more ≤ datagram.length) :
    ∃ (h : Ipv4) (rest : Bytes), datagram = h.encodeFixedPart ++ rest ∧ more ≤ rest.length := by
  have long : 1 + (1 + (2 + (2 + (2 + (1 + (1 + (2 + (4 + (4 + more))))))))) ≤ datagram.length := by
    rw [minLength] at long
    omega
  obtain ⟨versionLength, rest, e₁, long⟩ := Bytes.exists_byte long
  obtain ⟨service, rest, e₂, long⟩ := Bytes.exists_byte long
  obtain ⟨totalLength, rest, e₃, long⟩ := Bytes.exists_word long
  obtain ⟨identification, rest, e₄, long⟩ := Bytes.exists_word long
  obtain ⟨fragment, rest, e₅, long⟩ := Bytes.exists_word long
  obtain ⟨timeToLive, rest, e₆, long⟩ := Bytes.exists_byte long
  obtain ⟨protocol, rest, e₇, long⟩ := Bytes.exists_byte long
  obtain ⟨checksum, rest, e₈, long⟩ := Bytes.exists_word long
  obtain ⟨source, rest, e₉, long⟩ := Bytes.exists_octets 4 long
  obtain ⟨destination, rest, e₁₀, long⟩ := Bytes.exists_octets 4 long
  exact ⟨⟨versionLength, service, totalLength, identification, fragment, timeToLive, protocol, checksum, source,
    destination, []⟩, rest, by simp [encodeFixedPart, e₁, e₂, e₃, e₄, e₅, e₆, e₇, e₈, e₉, e₁₀], long⟩

/-- Enough bytes are an IPv6 header and a payload. -/
theorem Ipv6.exists_encode {datagram : Bytes} {more : Nat} (long : headerLength + more ≤ datagram.length) :
    ∃ (h : Ipv6) (payload : Bytes), datagram = h.encode ++ payload ∧ more ≤ payload.length := by
  have long : 4 + (2 + (1 + (1 + (16 + (16 + more))))) ≤ datagram.length := by
    rw [headerLength] at long
    omega
  obtain ⟨versionClassFlow, rest, e₁, long⟩ := Bytes.exists_octets 4 long
  obtain ⟨payloadLength, rest, e₂, long⟩ := Bytes.exists_word long
  obtain ⟨nextHeader, rest, e₃, long⟩ := Bytes.exists_byte long
  obtain ⟨hopLimit, rest, e₄, long⟩ := Bytes.exists_byte long
  obtain ⟨source, rest, e₅, long⟩ := Bytes.exists_octets 16 long
  obtain ⟨destination, payload, e₆, long⟩ := Bytes.exists_octets 16 long
  exact ⟨⟨versionClassFlow, payloadLength, nextHeader, hopLimit, source, destination⟩, payload,
    by simp [encode, e₁, e₂, e₃, e₄, e₅, e₆], long⟩

/-- Enough bytes are an ICMP header and a payload. -/
theorem Icmp.exists_encode {message : Bytes} (long : headerLength ≤ message.length) :
    ∃ (h : Icmp) (payload : Bytes), message = h.encode ++ payload := by
  have long : 1 + (1 + (2 + (2 + (2 + 0)))) ≤ message.length := long
  obtain ⟨kind, rest, e₁, long⟩ := Bytes.exists_byte long
  obtain ⟨code, rest, e₂, long⟩ := Bytes.exists_byte long
  obtain ⟨checksum, rest, e₃, long⟩ := Bytes.exists_word long
  obtain ⟨identifier, rest, e₄, long⟩ := Bytes.exists_word long
  obtain ⟨sequence, payload, e₅, -⟩ := Bytes.exists_word long
  exact ⟨⟨kind, code, checksum, identifier, sequence⟩, payload, by simp [encode, e₁, e₂, e₃, e₄, e₅]⟩

end XdpEcho
