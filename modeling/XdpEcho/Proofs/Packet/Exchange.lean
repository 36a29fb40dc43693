import XdpEcho.Proofs.Checksum.OnesComplement
import XdpEcho.Proofs.Packet.EchoReply

/-!
# Adjoining fields that trade places

The two addresses of a header stand one behind the other and are equally long. Exchanging them is therefore an exchange
of two stretches of bytes, of which it matters only where the first one begins and how long both are.

* `Bytes.exchange` — a byte string with two adjoining fields exchanged.
* `Bytes.getElem?_exchange` — where each byte comes from.
* `Bytes.exchange_exchange` — exchanged twice, the fields are where they were.
* `Checksum.total_exchange` — the sum of the words does not change when whole words trade places.
* `Ethernet.exchange_encode`, `Ipv4.exchange_encode`, `Ipv6.exchange_encode` — a header whose addresses are exchanged.
-/

namespace XdpEcho

/-! ### Two adjoining fields -/

namespace Bytes

variable {b front first second back : Bytes} {start width : Nat}

/-- The byte string with two adjoining fields of `width` bytes exchanged, the first of which begins at `start`. -/
def exchange (start width : Nat) (b : Bytes) : Bytes :=
  b.take start ++ (b.extract (start + width) (start + 2 * width) ++
    (b.extract start (start + width) ++ b.drop (start + 2 * width)))

/-- The position with which a position trades places. -/
def partner (start width i : Nat) : Nat :=
  if i < start then i
  else if i < start + width then i + width
  else if i < start + 2 * width then i - width
  else i

theorem partner_of_outside {i : Nat} (outside : i < start ∨ start + 2 * width ≤ i) : partner start width i = i := by
  unfold partner
  split
  next => rfl
  next =>
    rw [if_neg (by omega), if_neg (by omega)]

/-- Fields of the right lengths trade places. -/
theorem exchange_append (before : front.length = start) (length : first.length = width)
    (length' : second.length = width) :
    exchange start width (front ++ (first ++ (second ++ back))) = front ++ (second ++ (first ++ back)) := by
  have near : (front ++ (first ++ (second ++ back))).drop start = first ++ (second ++ back) :=
    List.drop_left' before
  have far : (front ++ (first ++ (second ++ back))).drop (start + width) = second ++ back := by
    rw [← List.drop_drop, near, List.drop_left' length]
  have rest : (front ++ (first ++ (second ++ back))).drop (start + 2 * width) = back := by
    rw [Nat.two_mul, ← Nat.add_assoc, ← List.drop_drop, far, List.drop_left' length']
  rw [exchange, List.extract_eq_take_drop, List.extract_eq_take_drop, near, far, rest, List.take_left' before,
    List.take_left' (by omega), List.take_left' (by omega)]

theorem exists_fields (within : start + 2 * width ≤ b.length) :
    ∃ front first second back, front.length = start ∧ first.length = width ∧ second.length = width ∧
      b = front ++ (first ++ (second ++ back)) := by
  refine ⟨b.take start, (b.drop start).take width, ((b.drop start).drop width).take width,
    ((b.drop start).drop width).drop width, List.length_take_of_le (by omega), ?_, ?_, ?_⟩
  · rw [List.length_take, List.length_drop]
    omega
  · rw [List.length_take, List.length_drop, List.length_drop]
    omega
  · rw [List.take_append_drop, List.take_append_drop, List.take_append_drop]

/-- The byte at a position comes from the position that it trades places with. -/
theorem getElem?_exchange (within : start + 2 * width ≤ b.length) (i : Nat) :
    (exchange start width b)[i]? = b[partner start width i]? := by
  obtain ⟨front, first, second, back, before, length, length', rfl⟩ := exists_fields within
  rw [exchange_append before length length', partner]
  split
  next inFront => rw [List.getElem?_append_left (by omega), List.getElem?_append_left (by omega)]
  next =>
    split
    next inFirst =>
      rw [List.getElem?_append_right (by omega), List.getElem?_append_left (by omega),
        List.getElem?_append_right (by omega), List.getElem?_append_right (by omega),
        List.getElem?_append_left (by omega)]
      congr 1
      omega
    next =>
      split
      next inSecond =>
        rw [List.getElem?_append_right (by omega), List.getElem?_append_right (by omega),
          List.getElem?_append_left (by omega), List.getElem?_append_right (by omega),
          List.getElem?_append_left (by omega)]
        congr 1
        omega
      next behind =>
        rw [List.getElem?_append_right (by omega), List.getElem?_append_right (by omega),
          List.getElem?_append_right (by omega), List.getElem?_append_right (by omega),
          List.getElem?_append_right (by omega), List.getElem?_append_right (by omega), length, length']

theorem length_exchange (within : start + 2 * width ≤ b.length) : (exchange start width b).length = b.length := by
  obtain ⟨front, first, second, back, before, length, length', rfl⟩ := exists_fields within
  rw [exchange_append before length length']
  simp only [List.length_append, length, length']

/-- Exchanged twice, the fields are where they were. -/
theorem exchange_exchange (within : start + 2 * width ≤ b.length) :
    exchange start width (exchange start width b) = b := by
  obtain ⟨front, first, second, back, before, length, length', rfl⟩ := exists_fields within
  rw [exchange_append before length length', exchange_append before length' length]

/-- What follows the fields does not matter. -/
theorem exchange_append_right (within : start + 2 * width ≤ b.length) (rest : Bytes) :
    exchange start width (b ++ rest) = exchange start width b ++ rest := by
  obtain ⟨front, first, second, back, before, length, length', rfl⟩ := exists_fields within
  rw [exchange_append before length length']
  simp only [List.append_assoc]
  exact exchange_append before length length'

end Bytes

namespace Checksum

open Bytes

variable {b : Bytes} {start width : Nat}

/-- Fields of whole words that begin at an even offset can trade places without changing the sum. -/
theorem total_exchange (evenStart : start % 2 = 0) (evenWidth : width % 2 = 0)
    (within : start + 2 * width ≤ b.length) : total (exchange start width b) = total b := by
  obtain ⟨front, first, second, back, before, length, length', rfl⟩ := exists_fields within
  rw [← before] at evenStart
  have even : first.length % 2 = 0 := length.symm ▸ evenWidth
  have even' : second.length % 2 = 0 := length'.symm ▸ evenWidth
  rw [exchange_append before length length', total_append evenStart, total_append evenStart, total_append even,
    total_append even', total_append even', total_append even]
  omega

end Checksum

/-! ### Headers with addresses -/

theorem Ethernet.exchange_encode (h : Ethernet) : Bytes.exchange 0 6 h.encode = h.swapAddresses.encode := by
  have plain : h.encode = [] ++ (h.destination.toList ++ (h.source.toList ++ Bytes.ofWord h.etherType)) := by
    simp only [encode, List.append_assoc, List.nil_append]
  rw [plain, Bytes.exchange_append List.length_nil Vector.length_toList Vector.length_toList]
  simp only [encode, swapAddresses, List.append_assoc, List.nil_append]

theorem Ipv4.exchange_encode (h : Ipv4) : Bytes.exchange 12 4 h.encode = h.swapAddresses.encode := by
  have plain : h.encode = ([h.versionLength, h.service] ++ Bytes.ofWord h.totalLength ++ Bytes.ofWord h.identification ++
      Bytes.ofWord h.fragment ++ [h.timeToLive, h.protocol] ++ Bytes.ofWord h.checksum) ++
        (h.source.toList ++ (h.destination.toList ++ h.options)) := by
    simp only [encode, encodeFixedPart, List.append_assoc]
  have before : ([h.versionLength, h.service] ++ Bytes.ofWord h.totalLength ++ Bytes.ofWord h.identification ++
      Bytes.ofWord h.fragment ++ [h.timeToLive, h.protocol] ++ Bytes.ofWord h.checksum).length = 12 := rfl
  rw [plain, Bytes.exchange_append before Vector.length_toList Vector.length_toList]
  simp only [encode, encodeFixedPart, swapAddresses, List.append_assoc]

theorem Ipv6.exchange_encode (h : Ipv6) : Bytes.exchange 8 16 h.encode = h.swapAddresses.encode := by
  have plain : h.encode = (h.versionClassFlow.toList ++ Bytes.ofWord h.payloadLength ++ [h.nextHeader, h.hopLimit]) ++
      (h.source.toList ++ (h.destination.toList ++ [])) := by
    simp only [encode, List.append_assoc, List.append_nil]
  have before : (h.versionClassFlow.toList ++ Bytes.ofWord h.payloadLength ++ [h.nextHeader, h.hopLimit]).length = 8 := by
    simp
  rw [plain, Bytes.exchange_append before Vector.length_toList Vector.length_toList]
  simp only [encode, swapAddresses, List.append_assoc, List.append_nil]

end XdpEcho
