import XdpEcho.Header.Edit
import XdpEcho.Proofs.Packet.Headers
import XdpEcho.Proofs.Packet.ReplyChecksum

/-!
# Changing the type of a message again and again

Each change of the type repairs the checksum that the change before has left. No error adds up: only the last change can
be told from the buffer, whatever the checksum was worth at first. The two ways to write zero do not get in the way,
since the type and the code are one word, and of this word only the type changes.

* `HeaderEdit.applyInTurn` — edits of the header at the front, one after the other.
* `Icmp.changeKind_changeKind`, `Icmp.changeKind_kind` — two changes are one, and a change to the same type.
* `HeaderEdit.applyInTurn_changeIcmpKind` — a run of changes is the last of them.
* `Icmp.kind_changes_compose` — the same of any buffer, with what becomes of the rest of it.
-/

namespace XdpEcho

open Checksum

/-! ### Two changes of a header -/

namespace Icmp

/-- Only the last type counts. -/
theorem changeKind_changeKind (h : Icmp) (first second : UInt8) :
    (h.changeKind first).changeKind second = h.changeKind second := by
  have some : ¬ (h.checksum = 0xffff ∧ h.kindCodeWord = 0xffff ∧ Bytes.word second h.code = 0) := by
    -- The code is in the old word and in the new one, so these are not all ones and zero.
    rintro ⟨-, ones, zero⟩
    have old := congrArg UInt16.toNat ones
    have new := congrArg UInt16.toNat zero
    have max : (0xffff : UInt16).toNat = 65535 := rfl
    have kind := h.kind.toNat_lt
    rw [kindCodeWord, Bytes.toNat_word, max] at old
    rw [Bytes.toNat_word, UInt16.toNat_zero] at new
    omega
  have composed := replaceWord_replaceWord some (Bytes.word first h.code)
  simp only [changeKind, kindCodeWord] at composed ⊢
  rw [composed]

/-- A change to the type that the message has changes the checksum of all ones to zero. -/
theorem changeKind_kind (h : Icmp) :
    h.changeKind h.kind = if h.checksum = 0xffff then { h with checksum := 0 } else h := by
  have repaired := replaceWord_self h.checksum (Bytes.word h.kind h.code)
  simp only [changeKind, kindCodeWord, repaired]
  split
  next => rfl
  next => rfl

end Icmp

/-! ### A run of changes -/

namespace HeaderEdit

/-- The buffer after edits of the header at its front, each made in what the one before has left. -/
def applyInTurn (edits : List HeaderEdit) (buffer : Bytes) : Bytes :=
  edits.foldl (fun buffer edit => edit.apply buffer) buffer

variable {kinds : List UInt8}

theorem apply_changeIcmpKind (kind : UInt8) (h : Icmp) (payload : Bytes) :
    (changeIcmpKind kind).apply (h.encode ++ payload) = (h.changeKind kind).encode ++ payload := by
  have parsed : Icmp.parse? (h.encode ++ payload) = some (h, payload) := Icmp.parse?_eq_some_iff.mpr rfl
  rw [apply, parts?, parsed]
  rfl

/-- A run of changes is the last of them. -/
theorem applyInTurn_changeIcmpKind (nonempty : kinds ≠ []) (h : Icmp) (payload : Bytes) :
    applyInTurn (kinds.map changeIcmpKind) (h.encode ++ payload) =
      (h.changeKind (kinds.getLast nonempty)).encode ++ payload := by
  induction kinds generalizing h with
  | nil => exact (nonempty rfl).elim
  | cons first rest ih =>
    have step : applyInTurn ((first :: rest).map changeIcmpKind) (h.encode ++ payload) =
        applyInTurn (rest.map changeIcmpKind) ((h.changeKind first).encode ++ payload) := by
      rw [← apply_changeIcmpKind]
      rfl
    rw [step]
    cases rest with
    | nil => rfl
    | cons second later =>
      rw [ih (List.cons_ne_nil second later), Icmp.changeKind_changeKind]
      rfl

end HeaderEdit

/-! ### Any buffer -/

namespace Icmp

open HeaderEdit

variable {buffer : Bytes} {kinds : List UInt8}

/-- What is left of a message when its type is restored. -/
theorem encode_changeKind_kind (h : Icmp) (payload : Bytes) :
    (h.changeKind h.kind).encode ++ payload =
      if checksumOf (h.encode ++ payload) = 0xffff then withoutChecksum (h.encode ++ payload)
      else h.encode ++ payload := by
  rw [changeKind_kind, checksumOf_encode_append]
  split
  next =>
    simp [withoutChecksum, encode, Bytes.ofWord]
  next => rfl

/-- Changes of the type compose. Take any buffer that has room for the header of a message, whatever stands in it, and
any changes of its type, one after the other. What is left is what the last of them alone would have left; when this
restores the type of before it is the buffer of before, but that the checksum is zero where it was all ones. Code,
identifier, sequence number and payload are as they were all the time, and so is the sum of the words modulo
`65535`. -/
theorem kind_changes_compose (long : 8 ≤ buffer.length) (nonempty : kinds ≠ []) :
    let after (kinds : List UInt8) := applyInTurn (kinds.map changeIcmpKind) buffer
    after kinds = (changeIcmpKind (kinds.getLast nonempty)).apply buffer ∧
      after (kinds ++ [buffer.getD 0 0]) =
        (if checksumOf buffer = 0xffff then withoutChecksum buffer else buffer) ∧
      (∃ (h : Icmp) (checksum : UInt16) (payload : Bytes), parse? buffer = some (h, payload) ∧
        parse? (after kinds) = some ({ h with kind := kinds.getLast nonempty, checksum }, payload)) ∧
      total (after kinds) ≡ total buffer [MOD 65535] ∧
      (buffer.length ≤ 131074 →
        (sumWords 0 (after kinds)).toNat ≡ (sumWords 0 buffer).toNat [MOD 65535]) := by
  intro after
  obtain ⟨h, payload, rfl⟩ := exists_encode long
  have changed : after kinds = (h.changeKind (kinds.getLast nonempty)).encode ++ payload :=
    applyInTurn_changeIcmpKind nonempty h payload
  have sum := h.changeKind_modEq (kinds.getLast nonempty) payload
  refine ⟨?_, ?_, ?_, ?_, ?_⟩
  · rw [changed, apply_changeIcmpKind]
  · have first : (h.encode ++ payload).getD 0 0 = h.kind := rfl
    have back : kinds ++ [h.kind] ≠ [] := List.append_ne_nil_of_right_ne_nil kinds (List.cons_ne_nil h.kind [])
    have last : (kinds ++ [h.kind]).getLast back = h.kind :=
      List.getLast_append_of_ne_nil back (List.cons_ne_nil h.kind [])
    have restored := applyInTurn_changeIcmpKind back h payload
    rw [last] at restored
    rw [← encode_changeKind_kind, ← restored, first]
  · exact ⟨h, _, payload, parse?_eq_some_iff.mpr rfl, parse?_eq_some_iff.mpr changed⟩
  · rwa [changed]
  · intro short
    have short' : Short (after kinds) := by
      rw [changed]
      exact short
    rw [toNat_sumWords_zero short', toNat_sumWords_zero short, changed]
    exact sum

/-- A message with a checksum of all ones is changed to three types in turn, and back to a request. -/
theorem kind_changes_compose_on_all_ones :
    let message : Bytes := [8, 0, 0xff, 0xff, 0x12, 0x34, 0, 1, 0xab]
    let after (kinds : List UInt8) := applyInTurn (kinds.map changeIcmpKind) message
    after [129, 0xff, 0] = [0, 0, 0x08, 0, 0x12, 0x34, 0, 1, 0xab] ∧
      after [129, 0xff, 0, 8] = [8, 0, 0, 0, 0x12, 0x34, 0, 1, 0xab] := by
  intro message after
  have long : 8 ≤ message.length := by decide
  obtain ⟨last, restored, -⟩ := kind_changes_compose long (List.cons_ne_nil 129 [0xff, 0])
  exact ⟨last.trans (by decide), restored.trans (by decide)⟩

end Icmp

end XdpEcho
