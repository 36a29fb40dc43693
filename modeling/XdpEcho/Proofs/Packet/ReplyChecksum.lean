import XdpEcho.Proofs.Checksum.OnesComplement
import XdpEcho.Proofs.Packet.Exchange

/-!
# The checksums of a reply

A reply is made of its request without reading the payload: the checksum of the message is repaired for the one word
that changes, and the address fields are exchanged, which no sum of words notices. So whatever was right about the
checksums of the request is right about those of the reply, and what was wrong stays wrong.

* `Ipv4.headerOf`, `Ipv4.messageOf`, `Ipv6.sourceOf`, `Ipv6.destinationOf`, `Ipv6.messageOf` — where the parts that a
  checksum covers lie in a packet.
* `Icmp.changeKind_modEq`, `Icmp.checksum_eq_not_fold` — changing the type of a message, whatever is summed before it.
* `EchoReply.checksums_of_ipv4_reply` — a reply over IPv4 verifies as its request does, one message apart.
* `EchoReply.checksum_of_ipv6_reply` — a reply over IPv6 verifies as its request does, without an exception.
-/

namespace XdpEcho

open Checksum

/-! ### Parts of a packet -/

/-- The length that the IPv4 header of a packet states, in bytes. -/
def Ipv4.headerLengthOf (packet : Bytes) : Nat :=
  4 * (packet.getD Ethernet.headerLength 0 % 16).toNat

/-- The IPv4 header of a packet, with its options. -/
def Ipv4.headerOf (packet : Bytes) : Bytes :=
  (packet.drop Ethernet.headerLength).take (headerLengthOf packet)

/-- All bytes after the IPv4 header. -/
def Ipv4.messageOf (packet : Bytes) : Bytes :=
  packet.drop (Ethernet.headerLength + headerLengthOf packet)

def Ipv6.sourceOf (packet : Bytes) : Bytes :=
  (packet.drop (Ethernet.headerLength + 8)).take 16

def Ipv6.destinationOf (packet : Bytes) : Bytes :=
  (packet.drop (Ethernet.headerLength + 24)).take 16

/-- All bytes after the IPv6 header. -/
def Ipv6.messageOf (packet : Bytes) : Bytes :=
  packet.drop (Ethernet.headerLength + Ipv6.headerLength)

namespace Icmp

/-- The checksum that is stored in a message. -/
def checksumOf (message : Bytes) : UInt16 :=
  Bytes.word (message.getD 2 0) (message.getD 3 0)

/-- The message with zero in place of its checksum. -/
def withoutChecksum (message : Bytes) : Bytes :=
  message.take 2 ++ [0, 0] ++ message.drop 4

end Icmp

/-- What the checksum of an ICMPv6 message covers before the message: the addresses, the length of the message and its
protocol. -/
def Ipv6.pseudoSum (source destination : Bytes) (length : Nat) : UInt32 :=
  sumWords (sumWords 0 source) destination + UInt32.ofNat length + Ipv6.protocolIcmp.toUInt32

/-- The sum that the checksum of an ICMPv6 message covers. -/
def Ipv6.coveredSum (source destination message : Bytes) : UInt32 :=
  sumWords (pseudoSum source destination message.length) message

/-! ### Messages -/

namespace Icmp

variable {h : Icmp} {data : Bytes}

theorem total_encode_append (h : Icmp) (data : Bytes) :
    total (h.encode ++ data) =
      h.kindCodeWord.toNat + h.checksum.toNat + h.identifier.toNat + h.sequence.toNat + total data := by
  have first : [h.kind, h.code] = Bytes.ofWord h.kindCodeWord := (Bytes.ofWord_word h.kind h.code).symm
  simp only [encode, first, List.append_assoc, total_ofWord_append]
  omega

theorem checksumOf_encode_append (h : Icmp) (data : Bytes) : checksumOf (h.encode ++ data) = h.checksum :=
  Bytes.word_of_bytes h.checksum

/-- Without the checksum its word is missing from the sum. -/
theorem total_withoutChecksum (h : Icmp) (data : Bytes) :
    total (withoutChecksum (h.encode ++ data)) + h.checksum.toNat = total (h.encode ++ data) := by
  have zeroed : withoutChecksum (h.encode ++ data) = ({ h with checksum := 0 } : Icmp).encode ++ data := by
    simp [withoutChecksum, encode, Bytes.ofWord]
  rw [zeroed, total_encode_append, total_encode_append]
  simp only [kindCodeWord, UInt16.toNat_zero]
  omega

theorem length_withoutChecksum (h : Icmp) (data : Bytes) :
    (withoutChecksum (h.encode ++ data)).length = (h.encode ++ data).length :=
  rfl

theorem take_encode_append {n : Nat} (long : 8 ≤ n) (h : Icmp) (data : Bytes) :
    (h.encode ++ data).take n = h.encode ++ data.take (n - 8) := by
  rw [List.take_append, length_encode, List.take_of_length_le long]
  rfl

/-- Another type changes the sum of a message by a multiple of `65535`. -/
theorem changeKind_modEq (h : Icmp) (kind : UInt8) (data : Bytes) :
    total ((h.changeKind kind).encode ++ data) ≡ total (h.encode ++ data) [MOD 65535] := by
  have repaired := replaceWord_modEq h.checksum h.kindCodeWord (Bytes.word kind h.code)
  rw [total_encode_append, total_encode_append]
  simp only [changeKind, Nat.ModEq] at repaired ⊢
  simp only [kindCodeWord] at repaired ⊢
  omega

/-- The repaired checksum is not all ones when the old type was not. -/
theorem changeKind_lt (h : Icmp) (kind : UInt8) (notOnes : h.kind ≠ 0xff) :
    (h.changeKind kind).checksum.toNat < 65535 := by
  refine replaceWord_lt h.checksum (Bytes.word kind h.code) fun ones => notOnes ?_
  have words := congrArg UInt16.toNat ones
  have value : (0xffff : UInt16).toNat = 65535 := rfl
  have code := h.code.toNat_lt
  have low := h.kind.toNat_lt
  rw [kindCodeWord, Bytes.toNat_word, value] at words
  rw [← UInt8.toNat_inj]
  change h.kind.toNat = 255
  omega

/-- When a message and what is summed before it make a multiple of `65535`, the checksum stored in it is the one that is
computed from all the rest, unless there is nothing but zeros in the rest, or the checksum is all ones. -/
theorem checksum_eq_not_fold {before : UInt32} (lt : h.checksum.toNat < 65535)
    (fits : before.toNat + total (h.encode ++ data) < 2 ^ 32)
    (verifies : before.toNat + total (h.encode ++ data) ≡ 0 [MOD 65535])
    (some : before.toNat + total (h.encode ++ data) ≠ 0) :
    checksumOf (h.encode ++ data) = ~~~ fold (sumWords before (withoutChecksum (h.encode ++ data))) := by
  have rest := total_withoutChecksum h data
  have sum : (sumWords before (withoutChecksum (h.encode ++ data))).toNat =
      before.toNat + total (withoutChecksum (h.encode ++ data)) :=
    toNat_sumWords_of_lt (by omega)
  rw [checksumOf_encode_append]
  rw [Nat.ModEq] at verifies
  refine eq_not_fold ?_ lt ?_
  · -- Were the rest zero, the checksum alone would be a multiple of 65535, and hence zero too.
    omega
  · rw [sum, Nat.ModEq]
    omega

end Icmp

/-! ### Headers -/

/-- Exchanging the addresses of an IPv4 header leaves the sum of its words. -/
theorem Ipv4.total_swapAddresses (h : Ipv4) : total h.swapAddresses.encode = total h.encode := by
  have within : 12 + 2 * 4 ≤ h.encode.length := by
    rw [length_encode]
    exact Nat.le_add_right _ _
  rw [← exchange_encode, total_exchange rfl rfl within]

namespace EchoReply

variable {packet reply payload : Bytes} {ethernet : Ethernet} {icmp : Icmp}

/-! ### Replies over IPv4 -/

/-- Where header and message lie in a packet that is made of such parts. -/
theorem parts_of_ipv4 (ethernet : Ethernet) {ip : Ipv4} (options : ip.options.length = ip.headerLength - Ipv4.minLength)
    (admissible : ip.Admissible) (message : Bytes) :
    Ipv4.headerOf (ethernet.encode ++ (ip.encode ++ message)) = ip.encode ∧
      Ipv4.messageOf (ethernet.encode ++ (ip.encode ++ message)) = message := by
  have least := admissible.2
  have length : ip.encode.length = ip.headerLength := by
    rw [Ipv4.length_encode]
    omega
  have first : (ethernet.encode ++ (ip.encode ++ message)).getD Ethernet.headerLength 0 = ip.versionLength := by
    rw [List.getD_eq_getElem?_getD, List.getElem?_append_right (Nat.le_of_eq ethernet.length_encode),
      ethernet.length_encode]
    rfl
  have stated : Ipv4.headerLengthOf (ethernet.encode ++ (ip.encode ++ message)) = ip.headerLength := by
    rw [Ipv4.headerLengthOf, first]
    rfl
  constructor
  · rw [Ipv4.headerOf, stated, List.drop_left' ethernet.length_encode, List.take_left' length]
  · rw [Ipv4.messageOf, stated, ← List.drop_drop, List.drop_left' ethernet.length_encode, List.drop_left' length]

/-- What becomes of the message of a request over IPv4, and of its header. -/
theorem exists_ipv4_message (answered : ipv4 packet = .ok reply) :
    ∃ (icmp : Icmp) (payload : Bytes), icmp.kind = Icmp.echoRequest ∧ Ipv4.messageOf packet = icmp.encode ++ payload ∧
      Ipv4.messageOf reply = (icmp.changeKind Icmp.echoReply).encode ++ payload ∧
      total (Ipv4.headerOf reply) = total (Ipv4.headerOf packet) := by
  obtain ⟨ethernet, ip, icmp, payload, request, rfl⟩ := ipv4_eq_ok_iff.mp answered
  obtain ⟨header, message⟩ :=
    parts_of_ipv4 ethernet request.options request.admissible (icmp.encode ++ payload)
  have options : ip.swapAddresses.options.length = ip.swapAddresses.headerLength - Ipv4.minLength := request.options
  obtain ⟨header', message'⟩ := parts_of_ipv4 ethernet.swapAddresses options request.admissible
    ((icmp.changeKind Icmp.echoReply).encode ++ payload)
  refine ⟨icmp, payload, request.kind, ?_, ?_, ?_⟩
  · rw [request.packet_eq, message]
  · rw [List.append_assoc, List.append_assoc, message']
  · rw [List.append_assoc, List.append_assoc, header', request.packet_eq, header, Ipv4.total_swapAddresses]

/-- How the message of a reply verifies, compared with the message of its request. -/
structure Repaired (request answer : Bytes) : Prop where
  /-- The sums of their words are the same modulo `65535`. -/
  sum : total answer ≡ total request [MOD 65535]
  /-- Unless the answer is nothing but zeros it verifies exactly when the request does. -/
  verifies : (∃ x ∈ answer, x ≠ 0) → (ofBytes answer = 0 ↔ ofBytes request = 0)
  /-- Unless the answer is nothing but zeros, the checksum stored in it is the one computed from all the rest, when the
  request verifies. -/
  stored : (∃ x ∈ answer, x ≠ 0) → ofBytes request = 0 →
    Icmp.checksumOf answer = ofBytes (Icmp.withoutChecksum answer)
  /-- An answer that is nothing but zeros belongs to a request that verifies. It does not verify itself, and the checksum
  computed from all the rest is the other zero. -/
  zeros : (∀ x ∈ answer, x = 0) → ofBytes request = 0 ∧ ofBytes answer = 0xffff ∧ Icmp.checksumOf answer = 0 ∧
    ofBytes (Icmp.withoutChecksum answer) = 0xffff

theorem repaired_changeKind {h : Icmp} (kind : UInt8) {data : Bytes} (notZero : h.kind ≠ 0) (notOnes : h.kind ≠ 0xff)
    (short : Short (h.encode ++ data)) : Repaired (h.encode ++ data) ((h.changeKind kind).encode ++ data) := by
  have sum := h.changeKind_modEq kind data
  have rest := (h.changeKind kind).total_withoutChecksum data
  have short' : Short ((h.changeKind kind).encode ++ data) := short
  have short'' : Short (Icmp.withoutChecksum ((h.changeKind kind).encode ++ data)) := short
  have some : total (h.encode ++ data) ≠ 0 := by
    rw [Ne, total_eq_zero_iff]
    exact fun zeros => notZero (zeros h.kind (by simp [Icmp.encode]))
  have zero_iff : (∀ x ∈ (h.changeKind kind).encode ++ data, x = 0) ↔ total ((h.changeKind kind).encode ++ data) = 0 :=
    (total_eq_zero_iff _).symm
  have some_iff : (∃ x ∈ (h.changeKind kind).encode ++ data, x ≠ 0) ↔
      total ((h.changeKind kind).encode ++ data) ≠ 0 :=
    (total_ne_zero_iff _).symm
  constructor
  · exact sum
  · intro other
    rw [some_iff] at other
    rw [ofBytes_eq_zero_iff short', ofBytes_eq_zero_iff short]
    constructor
    · intro verifies
      exact ⟨some, sum.symm.trans verifies.2⟩
    · intro verifies
      exact ⟨other, sum.trans verifies.2⟩
  · intro other requested
    rw [some_iff] at other
    have verifies := sum.trans ((ofBytes_eq_zero_iff short).mp requested).2
    have none : (0 : UInt32).toNat + total ((h.changeKind kind).encode ++ data) =
      total ((h.changeKind kind).encode ++ data) := Nat.zero_add _
    have fits := short'.total_lt
    rw [← none] at fits verifies other
    exact Icmp.checksum_eq_not_fold (h.changeKind_lt kind notOnes) fits verifies other
  · intro zeros
    rw [zero_iff] at zeros
    rw [zeros] at sum rest
    have stored : (h.changeKind kind).checksum = 0 := UInt16.toNat_inj.mp (Nat.eq_zero_of_add_eq_zero rest).2
    refine ⟨(ofBytes_eq_zero_iff short).mpr ⟨some, sum.symm⟩, ofBytes_of_total_eq_zero short' zeros, ?_,
      ofBytes_of_total_eq_zero short'' (Nat.eq_zero_of_add_eq_zero rest).1⟩
    rw [Icmp.checksumOf_encode_append, stored]

/-- The checksums of a reply over IPv4. Take any packet that is answered, whatever its header length and its options. The
checksum of the header is the same as before. Of the message take any number of bytes that has the message header in it
and is not too long for a 32-bit sum, the rest being padding. Then the words of the answer have the sum of those of the
request modulo `65535`, so it verifies exactly when the request does, and if so the stored checksum is the one that is
computed anew. The one exception is an answer of nothing but zeros, where the request verifies, zero is stored, and all
ones are computed anew. -/
theorem checksums_of_ipv4_reply (answered : ipv4 packet = .ok reply) :
    ofBytes (Ipv4.headerOf reply) = ofBytes (Ipv4.headerOf packet) ∧
      (Ipv4.messageOf reply).length = (Ipv4.messageOf packet).length ∧
      ∀ n, 8 ≤ n → n ≤ (Ipv4.messageOf packet).length → n ≤ 131074 →
        Repaired ((Ipv4.messageOf packet).take n) ((Ipv4.messageOf reply).take n) := by
  obtain ⟨icmp, payload, kind, request, answer, header⟩ := exists_ipv4_message answered
  refine ⟨?_, ?_, fun n long _ short => ?_⟩
  · exact ofBytes_congr header
  · rw [request, answer]
    simp
  · have few : Short ((icmp.encode ++ payload).take n) := Nat.le_trans (List.length_take_le _ _) short
    rw [Icmp.take_encode_append long] at few
    rw [request, answer, Icmp.take_encode_append long, Icmp.take_encode_append long]
    refine repaired_changeKind Icmp.echoReply ?_ ?_ few
    · rw [kind]
      decide
    · rw [kind]
      decide

/-- A request whose header has options and whose frame is padded with all ones. The message alone is answered with nothing
but zeros, and with the padding the answer verifies as the request does. -/
theorem checksums_of_ipv4_reply_with_options :
    let front : Bytes := [2, 0, 0, 0, 0, 1, 2, 0, 0, 0, 0, 2, 8, 0, 0x46, 0, 0, 32, 0, 0, 0, 0, 64, 1, 0x63, 0xda]
    let back : Bytes := [2, 0, 0, 0, 0, 2, 2, 0, 0, 0, 0, 1, 8, 0, 0x46, 0, 0, 32, 0, 0, 0, 0, 64, 1, 0x63, 0xda]
    let request : Bytes := [8, 0, 0xf7, 0xff, 0, 0, 0, 0]
    let padding : Bytes := [0xff, 0xff]
    let packet := front ++ [10, 0, 0, 1, 10, 0, 0, 2] ++ [1, 1, 1, 0] ++ request ++ padding
    let reply := back ++ [10, 0, 0, 2, 10, 0, 0, 1] ++ [1, 1, 1, 0] ++ List.replicate 8 0 ++ padding
    ipv4 packet = .ok reply ∧ ofBytes (Ipv4.headerOf packet) = 0 ∧ ofBytes (Ipv4.headerOf reply) = 0 ∧
      ofBytes request = 0 ∧ ofBytes (List.replicate 8 0) = 0xffff ∧
      ofBytes (request ++ padding) = 0 ∧ ofBytes (List.replicate 8 0 ++ padding) = 0 := by
  intro front back request padding packet reply
  have answered : ipv4 packet = .ok reply := by decide +kernel
  have whole : Ipv4.messageOf packet = request ++ padding := by decide +kernel
  have whole' : Ipv4.messageOf reply = List.replicate 8 0 ++ padding := by decide +kernel
  obtain ⟨header, -, repaired⟩ := checksums_of_ipv4_reply answered
  rw [whole, whole'] at repaired
  have right : ofBytes (Ipv4.headerOf packet) = 0 := by decide +kernel
  have silent : ∀ x ∈ List.replicate 8 (0 : UInt8), x = 0 := fun _ => List.eq_of_mem_replicate
  obtain ⟨verifies, other, -⟩ := (repaired 8 (by decide) (by decide) (by decide)).zeros silent
  have padded : ofBytes (request ++ padding) = 0 := by decide +kernel
  exact ⟨answered, right, header.trans right, verifies, other, padded,
    ((repaired 10 (by decide) (by decide) (by decide)).verifies (by decide)).mpr padded⟩

/-! ### Replies over IPv6 -/

/-- What becomes of the message of a request over IPv6, and of its addresses. -/
theorem exists_ipv6_message (answered : ipv6 packet = .ok reply) :
    ∃ (icmp : Icmp) (payload : Bytes), icmp.kind = Icmp.echoRequestV6 ∧
      Ipv6.messageOf packet = icmp.encode ++ payload ∧
      Ipv6.messageOf reply = (icmp.changeKind Icmp.echoReplyV6).encode ++ payload ∧
      Ipv6.sourceOf reply = Ipv6.destinationOf packet ∧ Ipv6.destinationOf reply = Ipv6.sourceOf packet := by
  obtain ⟨ethernet, ip, icmp, payload, request, rfl⟩ := ipv6_eq_ok_iff.mp answered
  have message (ethernet : Ethernet) (ip : Ipv6) (message : Bytes) :
      Ipv6.messageOf (ethernet.encode ++ (ip.encode ++ message)) = message := by
    rw [Ipv6.messageOf, ← List.drop_drop, List.drop_left' ethernet.length_encode, List.drop_left' ip.length_encode]
  have split (ip : Ipv6) : ∃ front : Bytes, front.length = 8 ∧
      ip.encode = front ++ (ip.source.toList ++ ip.destination.toList) := by
    refine ⟨ip.versionClassFlow.toList ++ Bytes.ofWord ip.payloadLength ++ [ip.nextHeader, ip.hopLimit], ?_, ?_⟩
    · simp
    · simp only [Ipv6.encode, List.append_assoc]
  have source (ethernet : Ethernet) (ip : Ipv6) (message : Bytes) :
      Ipv6.sourceOf (ethernet.encode ++ (ip.encode ++ message)) = ip.source.toList := by
    obtain ⟨front, length, ip_eq⟩ := split ip
    rw [Ipv6.sourceOf, ← List.drop_drop, List.drop_left' ethernet.length_encode, ip_eq, List.append_assoc,
      List.drop_left' length, List.append_assoc, List.take_left' (Vector.length_toList)]
  have destination (ethernet : Ethernet) (ip : Ipv6) (message : Bytes) :
      Ipv6.destinationOf (ethernet.encode ++ (ip.encode ++ message)) = ip.destination.toList := by
    obtain ⟨front, length, ip_eq⟩ := split ip
    have length' : (front ++ ip.source.toList).length = 24 := by
      rw [List.length_append, length, Vector.length_toList]
    rw [Ipv6.destinationOf, ← List.drop_drop, List.drop_left' ethernet.length_encode, ip_eq, ← List.append_assoc front,
      List.append_assoc, List.drop_left' length', List.take_left' (Vector.length_toList)]
  refine ⟨icmp, payload, request.kind, ?_, ?_, ?_, ?_⟩
  · rw [request.packet_eq, message]
  · rw [List.append_assoc, List.append_assoc, message]
  · rw [List.append_assoc, List.append_assoc, source, request.packet_eq, destination]
    rfl
  · rw [List.append_assoc, List.append_assoc, destination, request.packet_eq, source]
    rfl

theorem toNat_pseudoSum {source destination : Bytes} {length : Nat} (few : source.length ≤ 16)
    (few' : destination.length ≤ 16) (short : length ≤ 65535) :
    (Ipv6.pseudoSum source destination length).toNat = total source + total destination + length + 58 := by
  have sourceLe := total_le source
  have destinationLe := total_le destination
  have length' : (UInt32.ofNat length).toNat = length := UInt32.toNat_ofNat_of_lt' (Nat.lt_of_le_of_lt short (by decide))
  have protocol : Ipv6.protocolIcmp.toUInt32.toNat = 58 := rfl
  have zero : (0 : UInt32).toNat = 0 := rfl
  rw [Ipv6.pseudoSum, UInt32.toNat_add, UInt32.toNat_add, toNat_sumWords, toNat_sumWords, length', protocol, zero]
  omega

/-- The sum over an ICMPv6 message fits 32 bits, so it is exact. -/
theorem pseudoSum_add_total_lt {source destination message : Bytes} (few : source.length ≤ 16)
    (few' : destination.length ≤ 16) (short : message.length ≤ 65535) :
    (Ipv6.pseudoSum source destination message.length).toNat + total message < 2 ^ 32 := by
  have sourceLe := total_le source
  have destinationLe := total_le destination
  have messageLe := total_le message
  rw [toNat_pseudoSum few few' short]
  omega

/-- The checksum of a reply over IPv6. Take any packet that is answered, and of its message any number of bytes that has
the message header in it, the rest being padding. The checksum covers the addresses, the number of bytes and the protocol
too, and although the addresses change places the sum stays what it was modulo `65535`. So the answer verifies exactly
when the request does, and if so the stored checksum is the one that is computed anew, whatever code, identifier, sequence
number and payload are, and whichever of the two zeros the request may carry. -/
theorem checksum_of_ipv6_reply (answered : ipv6 packet = .ok reply) {n : Nat} (long : 8 ≤ n)
    (here : n ≤ (Ipv6.messageOf packet).length) (short : n ≤ 65535) :
    let sum (packet message : Bytes) := Ipv6.coveredSum (Ipv6.sourceOf packet) (Ipv6.destinationOf packet) message
    let request := (Ipv6.messageOf packet).take n
    let answer := (Ipv6.messageOf reply).take n
    answer.length = n ∧ (sum reply answer).toNat ≡ (sum packet request).toNat [MOD 65535] ∧
      (fold (sum reply answer) = 0xffff ↔ fold (sum packet request) = 0xffff) ∧
      (fold (sum packet request) = 0xffff →
        Icmp.checksumOf answer = ~~~ fold (sum reply (Icmp.withoutChecksum answer))) := by
  obtain ⟨icmp, payload, kind, request, answer, source, destination⟩ := exists_ipv6_message answered
  intro sum
  rw [request] at here ⊢
  rw [answer, Icmp.take_encode_append long, Icmp.take_encode_append long]
  have length : (icmp.encode ++ payload.take (n - 8)).length = n := by
    rw [← Icmp.take_encode_append long, List.length_take_of_le here]
  have length' : ((icmp.changeKind Icmp.echoReplyV6).encode ++ payload.take (n - 8)).length = n := length
  have few : (Ipv6.sourceOf packet).length ≤ 16 := List.length_take_le _ _
  have few' : (Ipv6.destinationOf packet).length ≤ 16 := List.length_take_le _ _
  -- The addresses change places, and the sum before the message is what it was.
  have before : (Ipv6.pseudoSum (Ipv6.sourceOf reply) (Ipv6.destinationOf reply) n).toNat =
      (Ipv6.pseudoSum (Ipv6.sourceOf packet) (Ipv6.destinationOf packet) n).toNat := by
    rw [source, destination, toNat_pseudoSum few' few short, toNat_pseudoSum few few' short]
    omega
  have positive : (Ipv6.pseudoSum (Ipv6.sourceOf packet) (Ipv6.destinationOf packet) n).toNat ≠ 0 := by
    rw [toNat_pseudoSum few few' short]
    omega
  have fits := pseudoSum_add_total_lt few few' (Nat.le_trans (Nat.le_of_eq length) short)
  have fits' := pseudoSum_add_total_lt few' few (Nat.le_trans (Nat.le_of_eq length') short)
  rw [length] at fits
  rw [← source, ← destination, length'] at fits'
  have requested := toNat_sumWords_of_lt fits
  have answered' := toNat_sumWords_of_lt fits'
  have same := (icmp.changeKind_modEq Icmp.echoReplyV6 (payload.take (n - 8))).add_left
    (Ipv6.pseudoSum (Ipv6.sourceOf packet) (Ipv6.destinationOf packet) n).toNat
  simp only [sum, Ipv6.coveredSum, Icmp.length_withoutChecksum, length, length', fold_eq_max_iff, requested, answered',
    before]
  refine ⟨trivial, same, ?_, fun verifies => ?_⟩
  · constructor
    · exact fun verifies => ⟨by omega, same.symm.trans verifies.2⟩
    · exact fun verifies => ⟨by omega, same.trans verifies.2⟩
  · refine Icmp.checksum_eq_not_fold (icmp.changeKind_lt _ ?_) fits' ?_ ?_
    · rw [kind]
      decide
    · rw [before]
      exact same.trans verifies.2
    · rw [before]
      omega

/-- A request whose identifier makes up for all the rest carries one of the two zeros, here the one of all ones. -/
theorem checksum_of_ipv6_reply_to_all_ones :
    let front : Bytes := [2, 0, 0, 0, 0, 1, 2, 0, 0, 0, 0, 2, 0x86, 0xdd, 0x60, 0, 0, 0, 0, 9, 58, 64]
    let back : Bytes := [2, 0, 0, 0, 0, 2, 2, 0, 0, 0, 0, 1, 0x86, 0xdd, 0x60, 0, 0, 0, 0, 9, 58, 64]
    let near : Bytes := [0xfe, 0x80, 0, 0, 0, 0, 0, 0, 0, 0, 0, 0, 0, 0, 0, 1]
    let far : Bytes := [0xfe, 0x80, 0, 0, 0, 0, 0, 0, 0, 0, 0, 0, 0, 0, 0, 2]
    let packet := front ++ near ++ far ++ [128, 0, 0xff, 0xff, 0x82, 0xb7, 0, 0, 0]
    let reply := back ++ far ++ near ++ [129, 0, 0xfe, 0xff, 0x82, 0xb7, 0, 0, 0]
    ipv6 packet = .ok reply ∧ fold (Ipv6.coveredSum near far [128, 0, 0xff, 0xff, 0x82, 0xb7, 0, 0, 0]) = 0xffff ∧
      fold (Ipv6.coveredSum far near [129, 0, 0xfe, 0xff, 0x82, 0xb7, 0, 0, 0]) = 0xffff ∧
      0xfeff = ~~~ fold (Ipv6.coveredSum far near [129, 0, 0, 0, 0x82, 0xb7, 0, 0, 0]) := by
  intro front back near far packet reply
  have answered : ipv6 packet = .ok reply := by decide +kernel
  have verifies : fold (Ipv6.coveredSum near far [128, 0, 0xff, 0xff, 0x82, 0xb7, 0, 0, 0]) = 0xffff := by decide +kernel
  obtain ⟨-, -, same, stored⟩ := checksum_of_ipv6_reply answered (n := 9) (by decide) (by decide +kernel) (by decide)
  exact ⟨answered, verifies, same.mpr verifies, stored verifies⟩

end EchoReply

end XdpEcho
