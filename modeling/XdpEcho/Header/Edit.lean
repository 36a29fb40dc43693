import XdpEcho.Header.Ethernet
import XdpEcho.Header.Icmp
import XdpEcho.Header.Ipv4
import XdpEcho.Header.Ipv6

/-!
# Header edits

The changes that turn a packet around, each as an edit of one header at the front of a buffer. An edit reads the
header, changes it and writes it back before the same payload; a buffer that does not start with such a header has
no edit.
-/

namespace XdpEcho

/-- A change to the header at the front of a buffer. -/
inductive HeaderEdit where
  | swapEthernet
  | swapIpv4
  | swapIpv6
  | changeIcmpKind (kind : UInt8)
  | setIcmpChecksum (checksum : UInt16)
  deriving DecidableEq

namespace HeaderEdit

/-- The bytes of the edited header and the payload that follows it, or `none` when the buffer does not parse. -/
def parts? (edit : HeaderEdit) (buffer : Bytes) : Option (Bytes × Bytes) :=
  match edit with
  | swapEthernet => (Ethernet.parse? buffer).map fun (h, payload) => (h.swapAddresses.encode, payload)
  | swapIpv4 => (Ipv4.parse? buffer).map fun (h, payload) => (h.swapAddresses.encode, payload)
  | swapIpv6 => (Ipv6.parse? buffer).map fun (h, payload) => (h.swapAddresses.encode, payload)
  | changeIcmpKind kind => (Icmp.parse? buffer).map fun (h, payload) => ((h.changeKind kind).encode, payload)
  | setIcmpChecksum checksum =>
    (Icmp.parse? buffer).map fun (h, payload) => (({ h with checksum } : Icmp).encode, payload)

/-- The edited buffer, or the buffer as it is when it does not parse. -/
def apply (edit : HeaderEdit) (buffer : Bytes) : Bytes :=
  match edit.parts? buffer with
  | some (header, payload) => header ++ payload
  | none => buffer

end HeaderEdit

end XdpEcho
