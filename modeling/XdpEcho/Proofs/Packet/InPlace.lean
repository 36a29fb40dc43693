import XdpEcho.Header.Edit
import XdpEcho.Processor
import XdpEcho.Proofs.Packet.Headers
import XdpEcho.Proofs.Packet.ReplyChecksum

/-!
# Replies in the place of their requests

A reply is made in the memory of its request. First the packet is only read; when it turns out to be a request, its
headers are found again, one behind the other, and edited. Here both is said by positions of bytes: which packets are
requests, and which bytes of a request are not the same in its reply.

* `HeaderEdit.applyAll` — edits one header after the other, and stops where there is none.
* `EchoReply.AsksOverIpv4`, `EchoReply.AsksOverIpv6` — the bytes that make a packet a request.
* `EchoReply.turned` — a reply, put together from the bytes of its request.
* `EchoReply.asksOverIpv4_iff`, `EchoReply.asksOverIpv6_iff` — these bytes are there exactly when the packet has the
  parts of a request.
* `EchoReply.replies_in_place` — exactly the requests are answered, no edit is given up half-way, and what is not
  answered is left alone.
-/

namespace XdpEcho

/-! ### Editing in place -/

/-- Edits the header at the front, then the one behind it, and so on, each as it is found in the buffer by then. Returns
whether all of them were found. Where one is not, the headers before it have been edited all the same. -/
def HeaderEdit.applyAll : List HeaderEdit → Bytes → Bool × Bytes
  | [], buffer => (true, buffer)
  | edit :: later, buffer =>
    match edit.parts? buffer with
    | none => (false, buffer)
    | some (header, payload) =>
      let (found, payload) := applyAll later payload
      (found, header ++ payload)

/-- An edit of a header that is there goes on behind it. -/
theorem HeaderEdit.applyAll_cons {edit : HeaderEdit} {buffer header payload : Bytes}
    (found : edit.parts? buffer = some (header, payload)) (later : List HeaderEdit) :
    applyAll (edit :: later) buffer = ((applyAll later payload).1, header ++ (applyAll later payload).2) := by
  rw [applyAll, found]

/-- Without a look at the packet first, a frame with nothing in it would be left half turned around. -/
example : HeaderEdit.applyAll [.swapEthernet, .swapIpv4] [1, 1, 1, 1, 1, 1, 2, 2, 2, 2, 2, 2, 8, 0] =
    (false, [2, 2, 2, 2, 2, 2, 1, 1, 1, 1, 1, 1, 8, 0]) := by decide

namespace EchoReply

variable {packet reply payload : Bytes} {ethernet : Ethernet} {icmp : Icmp}

/-- Answers a packet in its own memory: when there is a reply to it, its headers are edited. Returns whether all of them
were found, and what is in the memory by then. -/
def inPlace (reply : Bytes → Except DropReason Bytes) (edits : List HeaderEdit) (packet : Bytes) : Bool × Bytes :=
  match reply packet with
  | .error _ => (false, packet)
  | .ok _ => HeaderEdit.applyAll edits packet

/-- The edits that turn a packet around, given the one of the network header and the type that the message gets. -/
def editsOf (network : HeaderEdit) (kind : UInt8) : List HeaderEdit :=
  [.swapEthernet, network, .changeIcmpKind kind]

/-! ### Bytes by position -/

/-- Where the message of an IPv4 packet begins, by the length that its header states. -/
def ipv4MessageStart (packet : Bytes) : Nat :=
  14 + 4 * (packet.getD 14 0 % 16).toNat

/-- The bytes that make a packet an ICMP echo request over IPv4. -/
structure AsksOverIpv4 (packet : Bytes) : Prop where
  headerWords : 5 ≤ packet.getD 14 0 % 16
  long : ipv4MessageStart packet + 8 ≤ packet.length
  version : packet.getD 14 0 / 16 = 4
  etherType : packet.extract 12 14 = [0x08, 0x00]
  protocol : packet.getD 23 0 = 1
  kind : packet.getD (ipv4MessageStart packet) 0 = 8

/-- The bytes that make a packet an ICMPv6 echo request. -/
structure AsksOverIpv6 (packet : Bytes) : Prop where
  long : 62 ≤ packet.length
  etherType : packet.extract 12 14 = [0x86, 0xdd]
  nextHeader : packet.getD 20 0 = 58
  kind : packet.getD 54 0 = 128

/-- A packet with its link addresses exchanged, and the two network addresses, of `width` bytes each, that lie one after
the other from `address` on. The message begins at `message`; its first byte is `kind`, and its checksum has been
replaced for that word. Everything else is as it was. -/
def turned (address width message : Nat) (kind : UInt8) (packet : Bytes) : Bytes :=
  let word (i : Nat) := Bytes.word (packet.getD i 0) (packet.getD (i + 1) 0)
  let code := packet.getD (message + 1) 0
  let checksum := Checksum.replaceWord (word (message + 2)) (word message) (Bytes.word kind code)
  packet.extract 6 12 ++ packet.extract 0 6 ++ packet.extract 12 address ++
    packet.extract (address + width) (address + 2 * width) ++ packet.extract address (address + width) ++
    packet.extract (address + 2 * width) message ++ [kind, code] ++ Bytes.ofWord checksum ++ packet.drop (message + 4)

/-- A part that stands where another part ends can be cut out, and the rest begins where it ends. -/
theorem cut {middle back : Bytes} {i j : Nat} (here : packet.drop i = middle ++ back) (within : i + middle.length = j) :
    packet.extract i j = middle ∧ packet.drop j = back := by
  subst within
  constructor
  · rw [List.extract_eq_take_drop, here, List.take_left' (by omega)]
  · rw [← List.drop_drop, here, List.drop_left' rfl]

/-- The bytes of a part, by their position in the packet. -/
theorem getD_add {back : Bytes} {start : Nat} (here : packet.drop start = back) (i : Nat) :
    packet.getD (start + i) 0 = back.getD i 0 := by
  rw [List.getD_eq_getElem?_getD, List.getD_eq_getElem?_getD, ← here, List.getElem?_drop]

/-- A packet is turned around part by part. -/
theorem turned_eq {destination source middle near far options tail : Bytes} {address width message : Nat}
    {kind code : UInt8} {checksum : UInt16} (toDestination : destination.length = 6) (toSource : source.length = 6)
    (toAddress : 12 + middle.length = address) (toNear : near.length = width) (toFar : far.length = width)
    (toMessage : address + 2 * width + options.length = message) (new : UInt8) :
    turned address width message new (destination ++ (source ++ (middle ++ (near ++ (far ++ (options ++
        ([kind, code] ++ Bytes.ofWord checksum ++ tail))))))) =
      source ++ destination ++ middle ++ far ++ near ++ options ++ [new, code] ++
        Bytes.ofWord (Checksum.replaceWord checksum (Bytes.word kind code) (Bytes.word new code)) ++ tail := by
  generalize eq : destination ++ (source ++ (middle ++ (near ++ (far ++ (options ++
    ([kind, code] ++ Bytes.ofWord checksum ++ tail)))))) = packet
  have whole : packet.drop 0 = _ := eq.symm
  obtain ⟨destinationPart, rest⟩ := cut (j := 6) whole (by omega)
  obtain ⟨sourcePart, rest⟩ := cut (j := 12) rest (by omega)
  obtain ⟨middlePart, rest⟩ := cut rest toAddress
  obtain ⟨nearPart, rest⟩ := cut (j := address + width) rest (by omega)
  obtain ⟨farPart, rest⟩ := cut (j := address + 2 * width) rest (by omega)
  obtain ⟨optionsPart, rest⟩ := cut rest toMessage
  obtain ⟨-, tailPart⟩ := cut rest (j := message + 4) (by simp)
  have first : packet.getD message 0 = kind := getD_add rest 0
  have second : packet.getD (message + 1) 0 = code := getD_add rest 1
  have stored : Bytes.word (packet.getD (message + 2) 0) (packet.getD (message + 3) 0) = checksum := by
    rw [getD_add rest 2, getD_add rest 3]
    exact Bytes.word_of_bytes checksum
  simp only [turned, destinationPart, sourcePart, middlePart, nearPart, farPart, optionsPart, tailPart, first, second,
    stored]

/-! ### Requests over IPv4 -/

/-- Where the fields that are tested stand in a packet with these headers. -/
theorem fields_of_ipv4 {ip : Ipv4} {rest : Bytes} (made : packet = ethernet.encode ++ (ip.encodeFixedPart ++ rest)) :
    packet.extract 12 14 = Bytes.ofWord ethernet.etherType ∧ packet.getD 14 0 = ip.versionLength ∧
      packet.getD 23 0 = ip.protocol := by
  have whole : packet.drop 0 = (ethernet.destination.toList ++ ethernet.source.toList) ++
      (Bytes.ofWord ethernet.etherType ++ (ip.encodeFixedPart ++ rest)) := by
    simp [made, Ethernet.encode]
  obtain ⟨-, behind⟩ := cut (j := 12) whole (by simp)
  obtain ⟨etherType, behind⟩ := cut (j := 14) behind rfl
  exact ⟨etherType, getD_add behind 0, getD_add behind 9⟩

theorem ofWord_inj {w v : UInt16} (same : Bytes.ofWord w = Bytes.ofWord v) : w = v := by
  rw [← Bytes.word_of_bytes w, ← Bytes.word_of_bytes v]
  simp only [Bytes.ofWord, List.cons.injEq, and_true] at same
  rw [same.1, same.2]

/-- The message of a packet with an admissible IPv4 header begins where the bytes of the header say. -/
theorem message_of_ipv4 {ip : Ipv4} {message : Bytes} (made : packet = ethernet.encode ++ (ip.encode ++ message))
    (options : ip.options.length = ip.headerLength - Ipv4.minLength) (admissible : ip.Admissible) :
    packet.drop (ipv4MessageStart packet) = message := by
  rw [made]
  exact (parts_of_ipv4 ethernet options admissible message).2

/-- A request as its link header, the fixed part of its network header, and the rest. -/
theorem IsIpv4Request.eq_encodeFixedPart {ip : Ipv4} (request : IsIpv4Request packet ethernet ip icmp payload) :
    packet = ethernet.encode ++ (ip.encodeFixedPart ++ (ip.options ++ (icmp.encode ++ payload))) := by
  rw [request.packet_eq, Ipv4.encode, List.append_assoc]

/-- The bytes of a request are there exactly when the packet has the parts of a request. -/
theorem asksOverIpv4_iff :
    AsksOverIpv4 packet ↔ ∃ ethernet ip icmp payload, IsIpv4Request packet ethernet ip icmp payload := by
  constructor
  · intro asks
    have words : 5 ≤ (packet.getD 14 0 % 16).toNat := UInt8.le_iff_toNat_le.mp asks.headerWords
    have long := asks.long
    rw [ipv4MessageStart, Nat.add_assoc] at long
    obtain ⟨ethernet, datagram, framed, long⟩ := Ethernet.exists_encode long
    have long : Ipv4.minLength + (4 * (packet.getD 14 0 % 16).toNat - Ipv4.minLength + 8) ≤ datagram.length := by
      rw [Ipv4.minLength]
      omega
    obtain ⟨ip, rest, fixed, long⟩ := Ipv4.exists_encodeFixedPart long
    rw [fixed] at framed
    obtain ⟨etherType, versionLength, protocol⟩ := fields_of_ipv4 framed
    have stated : 4 * (packet.getD 14 0 % 16).toNat = ip.headerLength := by
      rw [versionLength]
      rfl
    rw [stated] at long
    obtain ⟨icmp, payload, sent⟩ : ∃ (icmp : Icmp) (payload : Bytes),
        rest.drop (ip.headerLength - Ipv4.minLength) = icmp.encode ++ payload := by
      refine Icmp.exists_encode ?_
      rw [List.length_drop, Icmp.headerLength]
      omega
    -- The options are what the header says beyond its fixed part.
    have made : packet = ethernet.encode ++
        (({ ip with options := rest.take (ip.headerLength - Ipv4.minLength) } : Ipv4).encode ++
          (icmp.encode ++ payload)) := by
      rw [← sent, Ipv4.encode, List.append_assoc, List.take_append_drop]
      exact framed
    have options : (rest.take (ip.headerLength - Ipv4.minLength)).length = ip.headerLength - Ipv4.minLength := by
      rw [List.length_take]
      omega
    have admissible : ip.Admissible := by
      refine ⟨?_, ?_⟩
      · rw [Ipv4.version, ← versionLength]
        exact asks.version
      · rw [← stated, Ipv4.minLength]
        omega
    have first := getD_add (message_of_ipv4 made options admissible) 0
    refine ⟨ethernet, _, icmp, payload, made, ?_, admissible, options, ?_, first.symm.trans asks.kind⟩
    · exact ofWord_inj (etherType.symm.trans asks.etherType)
    · exact protocol.symm.trans asks.protocol
  · rintro ⟨ethernet, ip, icmp, payload, request⟩
    obtain ⟨etherType, versionLength, protocol⟩ := fields_of_ipv4 request.eq_encodeFixedPart
    have message := message_of_ipv4 request.packet_eq request.options request.admissible
    have first := getD_add message 0
    have least := request.admissible.2
    refine ⟨?_, ?_, ?_, ?_, ?_, first.trans request.kind⟩
    · rw [versionLength, UInt8.le_iff_toNat_le]
      rw [Ipv4.minLength, Ipv4.headerLength, Ipv4.lengthWords] at least
      change 5 ≤ _
      omega
    · have rest := congrArg List.length message
      rw [List.length_drop, List.length_append, Icmp.length_encode, Icmp.headerLength] at rest
      omega
    · rw [versionLength]
      exact request.admissible.1
    · rw [etherType, request.etherType]
      rfl
    · rw [protocol, request.protocol]
      rfl

/-- The reply to a request is the request turned around. -/
theorem IsIpv4Request.reply_eq {ip : Ipv4} (request : IsIpv4Request packet ethernet ip icmp payload) :
    ethernet.swapAddresses.encode ++ ip.swapAddresses.encode ++ (icmp.changeKind Icmp.echoReply).encode ++ payload =
      turned 26 4 (ipv4MessageStart packet) Icmp.echoReply packet := by
  have start : 34 + ip.options.length = ipv4MessageStart packet := by
    have least := request.admissible.2
    have options := request.options
    rw [ipv4MessageStart, (fields_of_ipv4 request.eq_encodeFixedPart).2.1]
    rw [Ipv4.headerLength, Ipv4.lengthWords, Ipv4.minLength] at least options
    omega
  generalize ipv4MessageStart packet = message at start
  have made : packet = ethernet.destination.toList ++ (ethernet.source.toList ++
      ((Bytes.ofWord ethernet.etherType ++ ([ip.versionLength, ip.service] ++ Bytes.ofWord ip.totalLength ++
        Bytes.ofWord ip.identification ++ Bytes.ofWord ip.fragment ++ [ip.timeToLive, ip.protocol] ++
        Bytes.ofWord ip.checksum)) ++ (ip.source.toList ++ (ip.destination.toList ++ (ip.options ++
        ([icmp.kind, icmp.code] ++ Bytes.ofWord icmp.checksum ++ (Bytes.ofWord icmp.identifier ++
          Bytes.ofWord icmp.sequence ++ payload))))))) := by
    simp only [request.packet_eq, Ethernet.encode, Ipv4.encode, Ipv4.encodeFixedPart, Icmp.encode, List.append_assoc]
  rw [made]
  symm
  refine (turned_eq (Vector.length_toList) (Vector.length_toList) rfl (Vector.length_toList) (Vector.length_toList)
    start _).trans ?_
  simp only [Ethernet.encode, Ethernet.swapAddresses, Ipv4.encode, Ipv4.encodeFixedPart, Ipv4.swapAddresses,
    Icmp.encode, Icmp.changeKind, Icmp.kindCodeWord, List.append_assoc]

/-- Exactly the packets that ask are answered, and with themselves turned around. -/
theorem ipv4_eq_ok_iff_asks :
    ipv4 packet = .ok reply ↔
      AsksOverIpv4 packet ∧ reply = turned 26 4 (ipv4MessageStart packet) Icmp.echoReply packet := by
  rw [ipv4_eq_ok_iff, asksOverIpv4_iff]
  constructor
  · rintro ⟨ethernet, ip, icmp, payload, request, rfl⟩
    exact ⟨⟨ethernet, ip, icmp, payload, request⟩, request.reply_eq⟩
  · rintro ⟨⟨ethernet, ip, icmp, payload, request⟩, rfl⟩
    exact ⟨ethernet, ip, icmp, payload, request, request.reply_eq.symm⟩

/-! ### Requests over IPv6 -/

/-- Where the fields that are tested stand in a packet with these headers, and where its message begins. -/
theorem fields_of_ipv6 {ip : Ipv6} {message : Bytes} (made : packet = ethernet.encode ++ (ip.encode ++ message)) :
    packet.extract 12 14 = Bytes.ofWord ethernet.etherType ∧ packet.getD 20 0 = ip.nextHeader ∧
      packet.drop 54 = message := by
  have whole : packet.drop 0 = (ethernet.destination.toList ++ ethernet.source.toList) ++
      (Bytes.ofWord ethernet.etherType ++ ((ip.versionClassFlow.toList ++ Bytes.ofWord ip.payloadLength) ++
        ([ip.nextHeader, ip.hopLimit] ++ ip.source.toList ++ ip.destination.toList ++ message))) := by
    simp [made, Ethernet.encode, Ipv6.encode]
  obtain ⟨-, behind⟩ := cut (j := 12) whole (by simp)
  obtain ⟨etherType, behind⟩ := cut (j := 14) behind rfl
  obtain ⟨-, behind⟩ := cut (j := 20) behind (by simp)
  refine ⟨etherType, getD_add behind 0, ?_⟩
  exact (cut (j := 54) behind (by simp)).2

/-- The bytes of a request are there exactly when the packet has the parts of a request. -/
theorem asksOverIpv6_iff :
    AsksOverIpv6 packet ↔ ∃ ethernet ip icmp payload, IsIpv6Request packet ethernet ip icmp payload := by
  constructor
  · intro asks
    have long : Ethernet.headerLength + (Ipv6.headerLength + Icmp.headerLength) ≤ packet.length := asks.long
    obtain ⟨ethernet, datagram, framed, long⟩ := Ethernet.exists_encode long
    obtain ⟨ip, message, carried, long⟩ := Ipv6.exists_encode long
    obtain ⟨icmp, payload, sent⟩ := Icmp.exists_encode long
    rw [carried, sent] at framed
    obtain ⟨etherType, nextHeader, message⟩ := fields_of_ipv6 framed
    refine ⟨ethernet, ip, icmp, payload, framed, ?_, ?_, (getD_add message 0).symm.trans asks.kind⟩
    · exact ofWord_inj (etherType.symm.trans asks.etherType)
    · exact nextHeader.symm.trans asks.nextHeader
  · rintro ⟨ethernet, ip, icmp, payload, request⟩
    obtain ⟨etherType, nextHeader, message⟩ := fields_of_ipv6 request.packet_eq
    refine ⟨?_, ?_, ?_, (getD_add message 0).trans request.kind⟩
    · rw [request.packet_eq]
      simp [Ethernet.headerLength, Ipv6.headerLength, Icmp.headerLength]
      omega
    · rw [etherType, request.etherType]
      rfl
    · rw [nextHeader, request.nextHeader]
      rfl

/-- The reply to a request is the request turned around. -/
theorem IsIpv6Request.reply_eq {ip : Ipv6} (request : IsIpv6Request packet ethernet ip icmp payload) :
    ethernet.swapAddresses.encode ++ ip.swapAddresses.encode ++ (icmp.changeKind Icmp.echoReplyV6).encode ++ payload =
      turned 22 16 54 Icmp.echoReplyV6 packet := by
  have made : packet = ethernet.destination.toList ++ (ethernet.source.toList ++
      ((Bytes.ofWord ethernet.etherType ++ (ip.versionClassFlow.toList ++ Bytes.ofWord ip.payloadLength ++
        [ip.nextHeader, ip.hopLimit])) ++ (ip.source.toList ++ (ip.destination.toList ++ ([] ++
        ([icmp.kind, icmp.code] ++ Bytes.ofWord icmp.checksum ++ (Bytes.ofWord icmp.identifier ++
          Bytes.ofWord icmp.sequence ++ payload))))))) := by
    simp only [request.packet_eq, Ethernet.encode, Ipv6.encode, Icmp.encode, List.append_assoc, List.nil_append]
  rw [made]
  symm
  refine (turned_eq (Vector.length_toList) (Vector.length_toList) (by simp) (Vector.length_toList)
    (Vector.length_toList) rfl _).trans ?_
  simp only [Ethernet.encode, Ethernet.swapAddresses, Ipv6.encode, Ipv6.swapAddresses, Icmp.encode, Icmp.changeKind,
    Icmp.kindCodeWord, List.append_assoc, List.nil_append]

/-- Exactly the packets that ask are answered, and with themselves turned around. -/
theorem ipv6_eq_ok_iff_asks :
    ipv6 packet = .ok reply ↔ AsksOverIpv6 packet ∧ reply = turned 22 16 54 Icmp.echoReplyV6 packet := by
  rw [ipv6_eq_ok_iff, asksOverIpv6_iff]
  constructor
  · rintro ⟨ethernet, ip, icmp, payload, request, rfl⟩
    exact ⟨⟨ethernet, ip, icmp, payload, request⟩, request.reply_eq⟩
  · rintro ⟨⟨ethernet, ip, icmp, payload, request⟩, rfl⟩
    exact ⟨ethernet, ip, icmp, payload, request, request.reply_eq.symm⟩

/-! ### In place -/

/-- When all three headers are there, all three edits are made. -/
theorem applyAll_editsOf {network : HeaderEdit} {datagram header : Bytes} (framed : packet = ethernet.encode ++ datagram)
    (carried : network.parts? datagram = some (header, icmp.encode ++ payload)) (kind : UInt8) :
    HeaderEdit.applyAll (editsOf network kind) packet =
      (true, ethernet.swapAddresses.encode ++ header ++ (icmp.changeKind kind).encode ++ payload) := by
  have link : HeaderEdit.swapEthernet.parts? packet = some (ethernet.swapAddresses.encode, datagram) := by
    rw [HeaderEdit.parts?, Ethernet.parse?_eq_some_iff.mpr framed, Option.map_some]
  have message : (HeaderEdit.changeIcmpKind kind).parts? (icmp.encode ++ payload) =
      some ((icmp.changeKind kind).encode, payload) := by
    rw [HeaderEdit.parts?, Icmp.parse?_eq_some_iff.mpr rfl, Option.map_some]
  rw [editsOf, HeaderEdit.applyAll_cons link, HeaderEdit.applyAll_cons carried, HeaderEdit.applyAll_cons message,
    HeaderEdit.applyAll]
  simp only [List.append_assoc]

/-- What answering in place does to a packet. It is answered exactly when it asks, with `answer`, which is as long as the
packet. Then all headers are found and `answer` is in its memory; otherwise the memory is what it was. A processor that
answers so forwards exactly what asks, and leaves in the memory what answering in place leaves there. -/
structure Answers (reply : Bytes → Except DropReason Bytes) (edits : List HeaderEdit) (asks : Prop)
    (packet answer : Bytes) : Prop where
  reply_iff : ∀ other, reply packet = .ok other ↔ asks ∧ other = answer
  length : asks → answer.length = packet.length
  accepted : asks → inPlace reply edits packet = (true, answer)
  refused : ¬ asks → inPlace reply edits packet = (false, packet)
  processed : ∀ {σ ω : Type} (name : String) (state : σ) (env : Env ω),
    (((Processor.responder name reply).process packet state env).1 = .forward ↔ asks) ∧
      ((Processor.responder name reply).process packet state env).2.1 = (inPlace reply edits packet).2

theorem answers_of_reply_iff {reply : Bytes → Except DropReason Bytes} {edits : List HeaderEdit} {asks : Prop}
    {answer : Bytes} (iff : ∀ other, reply packet = .ok other ↔ asks ∧ other = answer)
    (length : asks → answer.length = packet.length)
    (edited : asks → HeaderEdit.applyAll edits packet = (true, answer)) :
    Answers reply edits asks packet answer := by
  cases answered : reply packet with
  | error reason =>
    have refused : ¬ asks := by
      intro asks
      have ok := (iff answer).mpr ⟨asks, rfl⟩
      rw [answered] at ok
      cases ok
    refine ⟨iff, length, fun asks => absurd asks refused, fun _ => by rw [inPlace, answered], fun name state env => ?_⟩
    simp [Processor.responder, Processor.respond, inPlace, answered, refused]
  | ok other =>
    obtain ⟨asks, rfl⟩ := (iff other).mp answered
    have accepted : inPlace reply edits packet = (true, other) := by rw [inPlace, answered, edited asks]
    refine ⟨iff, length, fun _ => accepted, fun refused => absurd asks refused, fun name state env => ?_⟩
    rw [accepted]
    simp [Processor.responder, Processor.respond, answered, asks]

/-- Echo requests, and nothing else, are answered in place. A packet asks over IPv4 when it is long enough for an IPv4
header of the stated length, not below twenty bytes, and an ICMP header, and its bytes name IPv4, version 4, ICMP and an
echo request; over IPv6 when it has at least 62 bytes and these name IPv6, ICMPv6 and an echo request. The answer has the
link addresses and the network addresses exchanged, another type, and the checksum replaced for that word; options, code,
identifier, sequence number, payload and padding are as they were. Once a packet has been found to ask, no header is
missed when it is edited, and a packet that does not ask is left as it is. -/
theorem replies_in_place (packet : Bytes) :
    Answers ipv4 (editsOf .swapIpv4 0) (AsksOverIpv4 packet) packet (turned 26 4 (ipv4MessageStart packet) 0 packet) ∧
      Answers ipv6 (editsOf .swapIpv6 129) (AsksOverIpv6 packet) packet (turned 22 16 54 129 packet) := by
  constructor
  · refine answers_of_reply_iff (fun _ => ipv4_eq_ok_iff_asks)
      (fun asks => length_ipv4 (ipv4_eq_ok_iff_asks.mpr ⟨asks, rfl⟩)) fun asks => ?_
    obtain ⟨ethernet, ip, icmp, payload, request⟩ := asksOverIpv4_iff.mp asks
    have carried : HeaderEdit.swapIpv4.parts? (ip.encode ++ (icmp.encode ++ payload)) =
        some (ip.swapAddresses.encode, icmp.encode ++ payload) := by
      rw [HeaderEdit.parts?, Ipv4.parse?_eq_some_iff.mpr ⟨request.admissible, request.options, rfl⟩, Option.map_some]
    rw [applyAll_editsOf request.packet_eq carried]
    exact congrArg (Prod.mk true) request.reply_eq
  · refine answers_of_reply_iff (fun _ => ipv6_eq_ok_iff_asks)
      (fun asks => length_ipv6 (ipv6_eq_ok_iff_asks.mpr ⟨asks, rfl⟩)) fun asks => ?_
    obtain ⟨ethernet, ip, icmp, payload, request⟩ := asksOverIpv6_iff.mp asks
    have carried : HeaderEdit.swapIpv6.parts? (ip.encode ++ (icmp.encode ++ payload)) =
        some (ip.swapAddresses.encode, icmp.encode ++ payload) := by
      rw [HeaderEdit.parts?, Ipv6.parse?_eq_some_iff.mpr rfl, Option.map_some]
    rw [applyAll_editsOf request.packet_eq carried]
    exact congrArg (Prod.mk true) request.reply_eq

end EchoReply

end XdpEcho
