import XdpEcho.Bytes
import XdpEcho.Checksum

/-!
# ICMP headers

The header of an ICMP or ICMPv6 message, as far as the echo messages go.

* `Icmp.parse?` takes a header off the front of a message, `Icmp.encode` writes it back.
* `Icmp.changeKind` changes the message type and repairs the checksum without reading the payload.
* `Icmp.parse?_eq_some_iff` — a message parses exactly as the header whose bytes it starts with.
-/

namespace XdpEcho

/-- The header of an ICMP or ICMPv6 echo message. -/
structure Icmp where
  kind : UInt8
  code : UInt8
  checksum : UInt16
  identifier : UInt16
  sequence : UInt16
  deriving DecidableEq

namespace Icmp

def headerLength : Nat := 8

def echoReply : UInt8 := 0

def echoRequest : UInt8 := 8

def echoRequestV6 : UInt8 := 128

def echoReplyV6 : UInt8 := 129

/-- The header and the payload of a message, or `none` for one shorter than a header. -/
def parse? (message : Bytes) : Option (Icmp × Bytes) := do
  let (kind, rest) ← Bytes.byte? message
  let (code, rest) ← Bytes.byte? rest
  let (checksum, rest) ← Bytes.word? rest
  let (identifier, rest) ← Bytes.word? rest
  let (sequence, payload) ← Bytes.word? rest
  return (⟨kind, code, checksum, identifier, sequence⟩, payload)

def encode (h : Icmp) : Bytes :=
  [h.kind, h.code] ++ Bytes.ofWord h.checksum ++ Bytes.ofWord h.identifier ++ Bytes.ofWord h.sequence

/-- Type and code as the word that the checksum covers. -/
def kindCodeWord (h : Icmp) : UInt16 :=
  Bytes.word h.kind h.code

/-- Changes the type of the message and repairs the checksum for that one word. -/
def changeKind (h : Icmp) (kind : UInt8) : Icmp :=
  { h with kind, checksum := Checksum.replaceWord h.checksum h.kindCodeWord (Bytes.word kind h.code) }

theorem parse?_eq_some_iff {message payload : Bytes} {h : Icmp} :
    parse? message = some (h, payload) ↔ message = h.encode ++ payload := by
  obtain ⟨kind, code, checksum, identifier, sequence⟩ := h
  simp only [parse?, encode, Option.bind_eq_bind, Option.bind_eq_some_iff, Prod.exists, Bytes.byte?_eq_some_iff,
    Bytes.word?_eq_some_iff, Option.pure_def, Option.some.injEq, Prod.mk.injEq, Icmp.mk.injEq]
  constructor
  · rintro ⟨_, _, rfl, _, _, rfl, _, _, rfl, _, _, rfl, _, _, rfl, ⟨rfl, rfl, rfl, rfl, rfl⟩, rfl⟩
    simp
  · rintro rfl
    refine ⟨_, _, rfl, _, _, rfl, _, _, ?_, _, _, rfl, _, _, rfl, ⟨rfl, rfl, rfl, rfl, rfl⟩, rfl⟩
    simp

end Icmp

end XdpEcho
