import XdpEcho.Bytes

/-!
# The Internet checksum

The one's-complement sum of a byte string read as 16-bit words in network order. The sum is carried in 32 bits and
folded to 16 at the end.

* `sumWords` adds the words of a byte string, a last odd byte being the high byte of a word.
* `fold` brings the carries back into the low sixteen bits.
* `replaceWord` is the checksum after one covered word has changed, without reading the data again.
-/

namespace XdpEcho

namespace Checksum

/-- Adds the words of a byte string to `sum`. A last odd byte counts as the high byte of a word. -/
def sumWords (sum : UInt32) : Bytes → UInt32
  | [] => sum
  | [last] => sum + (Bytes.word last 0).toUInt32
  | hi :: lo :: rest => sumWords (sum + (Bytes.word hi lo).toUInt32) rest

/-- Adds the high half of a sum to its low half. -/
def carry (sum : UInt32) : UInt32 :=
  sum % 0x10000 + sum / 0x10000

/-- The sixteen-bit one's-complement sum. Carrying twice is enough: the first time leaves at most one bit above. -/
def fold (sum : UInt32) : UInt16 :=
  (carry (carry sum)).toUInt16

/-- The checksum of a byte string: the complement of its folded sum. -/
def ofBytes (b : Bytes) : UInt16 :=
  ~~~ fold (sumWords 0 b)

/-- The checksum `check` after one covered word has changed from `old` to `new`. -/
def replaceWord (check old new : UInt16) : UInt16 :=
  ~~~ fold ((~~~ check).toUInt32 + (~~~ old).toUInt32 + new.toUInt32)

theorem toNat_carry (sum : UInt32) : (carry sum).toNat = sum.toNat % 0x10000 + sum.toNat / 0x10000 := by
  have h := sum.toNat_lt
  simp only [carry, UInt32.toNat_add, UInt32.toNat_mod, UInt32.toNat_div, UInt32.toNat_ofNat, Nat.reducePow,
    Nat.reduceMod]
  omega

/-- After two carries nothing is left above the low sixteen bits. -/
theorem toNat_carry_carry_lt (sum : UInt32) : (carry (carry sum)).toNat < 0x10000 := by
  have h := sum.toNat_lt
  have hle : (carry sum).toNat ≤ 0x1fffe := by
    rw [toNat_carry]
    omega
  rw [toNat_carry]
  omega

end Checksum

end XdpEcho
