import XdpEcho.Header.Ethernet
import XdpEcho.Header.Icmp
import XdpEcho.Header.Ipv4
import XdpEcho.Header.Ipv6

/-!
# Echo replies

An echo request becomes its reply in place: link and network addresses are exchanged, the message type is changed
and the message checksum repaired. Everything else of the packet stays as it is. A packet that is not an echo
request has no reply, and the first test that it fails is the reason.

* `EchoReply.ipv4` answers ICMP echo requests over IPv4, with or without IP options.
* `EchoReply.ipv6` answers ICMPv6 echo requests whose message follows the fixed IPv6 header directly. The
  pseudo-header that the ICMPv6 checksum covers is the same sum with the addresses exchanged, so only the type
  needs repair.
-/

namespace XdpEcho

/-- Why a packet is not answered. -/
inductive DropReason where
  | runt (length : Nat)
  | notIpv4 (etherType : UInt16)
  | badIpv4Header
  | notIcmp (protocol : UInt8)
  | notEchoRequest
  | notIpv6 (etherType : UInt16)
  | badIpv6Header
  | notIcmpv6 (nextHeader : UInt8)
  | notEchoRequestV6
  deriving DecidableEq

namespace EchoReply

/-- The reply to an ICMP echo request over IPv4, or the reason why there is none. -/
def ipv4 (packet : Bytes) : Except DropReason Bytes := do
  if packet.length < Ethernet.headerLength + Ipv4.minLength + Icmp.headerLength then
    throw (.runt packet.length)
  let some (ethernet, datagram) := Ethernet.parse? packet | throw (.runt packet.length)
  if ethernet.etherType ≠ Ethernet.typeIpv4 then
    throw (.notIpv4 ethernet.etherType)
  let some (ip, message) := Ipv4.parse? datagram | throw .badIpv4Header
  if ip.protocol ≠ Ipv4.protocolIcmp then
    throw (.notIcmp ip.protocol)
  let some (icmp, payload) := Icmp.parse? message | throw .notEchoRequest
  if icmp.kind ≠ Icmp.echoRequest then
    throw .notEchoRequest
  return ethernet.swapAddresses.encode ++ ip.swapAddresses.encode ++ (icmp.changeKind Icmp.echoReply).encode ++
    payload

/-- The reply to an ICMPv6 echo request, or the reason why there is none. -/
def ipv6 (packet : Bytes) : Except DropReason Bytes := do
  if packet.length < Ethernet.headerLength + Ipv6.headerLength + Icmp.headerLength then
    throw (.runt packet.length)
  let some (ethernet, datagram) := Ethernet.parse? packet | throw (.runt packet.length)
  if ethernet.etherType ≠ Ethernet.typeIpv6 then
    throw (.notIpv6 ethernet.etherType)
  let some (ip, message) := Ipv6.parse? datagram | throw .badIpv6Header
  if ip.nextHeader ≠ Ipv6.protocolIcmp then
    throw (.notIcmpv6 ip.nextHeader)
  let some (icmp, payload) := Icmp.parse? message | throw .notEchoRequestV6
  if icmp.kind ≠ Icmp.echoRequestV6 then
    throw .notEchoRequestV6
  return ethernet.swapAddresses.encode ++ ip.swapAddresses.encode ++ (icmp.changeKind Icmp.echoReplyV6).encode ++
    payload

end EchoReply

end XdpEcho
