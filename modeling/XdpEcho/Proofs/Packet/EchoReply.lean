import XdpEcho.EchoReply

/-!
# Which packets are answered

An echo request is recognised by the three headers that it starts with, and its reply is made of the same headers with
their addresses exchanged and the message type changed. Nothing is read or changed behind them.

* `EchoReply.IsIpv4Request`, `EchoReply.IsIpv6Request` — the parts of a request.
* `EchoReply.ipv4_eq_ok_iff`, `EchoReply.ipv6_eq_ok_iff` — exactly the requests are answered, and with what.
* `EchoReply.length_ipv4`, `EchoReply.length_ipv6` — a reply fits where the request was.
-/

namespace XdpEcho

/-! ### Header lengths -/

@[simp] theorem Ethernet.length_encode (h : Ethernet) : h.encode.length = Ethernet.headerLength := by
  simp [encode, headerLength]

theorem Ipv4.length_encode (h : Ipv4) : h.encode.length = minLength + h.options.length := by
  simp [encode, encodeFixedPart, minLength]
  omega

@[simp] theorem Ipv6.length_encode (h : Ipv6) : h.encode.length = Ipv6.headerLength := by
  simp [encode, headerLength]

@[simp] theorem Icmp.length_encode (h : Icmp) : h.encode.length = Icmp.headerLength := by
  simp [encode, headerLength]

namespace EchoReply

variable {packet reply payload : Bytes} {ethernet : Ethernet} {icmp : Icmp}

/-! ### Requests over IPv4 -/

/-- The packet is an ICMP echo request over IPv4 with these parts. -/
structure IsIpv4Request (packet : Bytes) (ethernet : Ethernet) (ip : Ipv4) (icmp : Icmp) (payload : Bytes) : Prop where
  packet_eq : packet = ethernet.encode ++ (ip.encode ++ (icmp.encode ++ payload))
  etherType : ethernet.etherType = Ethernet.typeIpv4
  admissible : ip.Admissible
  options : ip.options.length = ip.headerLength - Ipv4.minLength
  protocol : ip.protocol = Ipv4.protocolIcmp
  kind : icmp.kind = Icmp.echoRequest

/-- Exactly the requests are answered: addresses are exchanged and the message becomes a reply. -/
theorem ipv4_eq_ok_iff :
    ipv4 packet = .ok reply ↔ ∃ ethernet ip icmp payload, IsIpv4Request packet ethernet ip icmp payload ∧
      reply = ethernet.swapAddresses.encode ++ ip.swapAddresses.encode ++
        (icmp.changeKind Icmp.echoReply).encode ++ payload := by
  constructor
  · intro answered
    simp only [ipv4, throw, throwThe, MonadExceptOf.throw, bind, Except.bind, pure, Except.pure] at answered
    repeat' split at answered
    all_goals cases answered
    -- One branch is left, in which every test has been passed.
    rename_i ethernet datagram framed etherType _ ip message carried protocol _ icmp payload sent kind
    obtain ⟨admissible, options, rfl⟩ := Ipv4.parse?_eq_some_iff.mp carried
    rw [Ethernet.parse?_eq_some_iff.mp framed, Icmp.parse?_eq_some_iff.mp sent]
    exact ⟨ethernet, ip, icmp, payload, ⟨rfl, Decidable.of_not_not etherType, admissible, options,
      Decidable.of_not_not protocol, Decidable.of_not_not kind⟩, rfl⟩
  · rintro ⟨ethernet, ip, icmp, payload, request, rfl⟩
    have long : ¬ packet.length < Ethernet.headerLength + Ipv4.minLength + Icmp.headerLength := by
      simp [request.packet_eq, Ipv4.length_encode]
      omega
    have framed := Ethernet.parse?_eq_some_iff.mpr request.packet_eq
    have carried := Ipv4.parse?_eq_some_iff.mpr
      ⟨request.admissible, request.options, (rfl : ip.encode ++ (icmp.encode ++ payload) = _)⟩
    have sent := Icmp.parse?_eq_some_iff.mpr (rfl : icmp.encode ++ payload = _)
    simp only [ipv4, if_neg long, framed, carried, sent, request.etherType, request.protocol, request.kind]
    rfl

theorem length_ipv4 (answered : ipv4 packet = .ok reply) : reply.length = packet.length := by
  obtain ⟨ethernet, ip, icmp, payload, request, rfl⟩ := ipv4_eq_ok_iff.mp answered
  rw [request.packet_eq]
  simp [Ipv4.length_encode, Ipv4.swapAddresses]

/-! ### Requests over IPv6 -/

/-- The packet is an ICMPv6 echo request with these parts. -/
structure IsIpv6Request (packet : Bytes) (ethernet : Ethernet) (ip : Ipv6) (icmp : Icmp) (payload : Bytes) : Prop where
  packet_eq : packet = ethernet.encode ++ (ip.encode ++ (icmp.encode ++ payload))
  etherType : ethernet.etherType = Ethernet.typeIpv6
  nextHeader : ip.nextHeader = Ipv6.protocolIcmp
  kind : icmp.kind = Icmp.echoRequestV6

/-- Exactly the requests are answered: addresses are exchanged and the message becomes a reply. -/
theorem ipv6_eq_ok_iff :
    ipv6 packet = .ok reply ↔ ∃ ethernet ip icmp payload, IsIpv6Request packet ethernet ip icmp payload ∧
      reply = ethernet.swapAddresses.encode ++ ip.swapAddresses.encode ++
        (icmp.changeKind Icmp.echoReplyV6).encode ++ payload := by
  constructor
  · intro answered
    simp only [ipv6, throw, throwThe, MonadExceptOf.throw, bind, Except.bind, pure, Except.pure] at answered
    repeat' split at answered
    all_goals cases answered
    -- One branch is left, in which every test has been passed.
    rename_i ethernet datagram framed etherType _ ip message carried nextHeader _ icmp payload sent kind
    rw [Ethernet.parse?_eq_some_iff.mp framed, Ipv6.parse?_eq_some_iff.mp carried, Icmp.parse?_eq_some_iff.mp sent]
    exact ⟨ethernet, ip, icmp, payload, ⟨rfl, Decidable.of_not_not etherType, Decidable.of_not_not nextHeader,
      Decidable.of_not_not kind⟩, rfl⟩
  · rintro ⟨ethernet, ip, icmp, payload, request, rfl⟩
    have long : ¬ packet.length < Ethernet.headerLength + Ipv6.headerLength + Icmp.headerLength := by
      simp [request.packet_eq]
      omega
    have framed := Ethernet.parse?_eq_some_iff.mpr request.packet_eq
    have carried := Ipv6.parse?_eq_some_iff.mpr (rfl : ip.encode ++ (icmp.encode ++ payload) = _)
    have sent := Icmp.parse?_eq_some_iff.mpr (rfl : icmp.encode ++ payload = _)
    simp only [ipv6, if_neg long, framed, carried, sent, request.etherType, request.nextHeader, request.kind]
    rfl

theorem length_ipv6 (answered : ipv6 packet = .ok reply) : reply.length = packet.length := by
  obtain ⟨ethernet, ip, icmp, payload, request, rfl⟩ := ipv6_eq_ok_iff.mp answered
  rw [request.packet_eq]
  simp

end EchoReply

end XdpEcho
