import Mathlib.Data.Nat.ModEq
import XdpEcho.Checksum

/-!
# One's-complement sums

The sum that a checksum is made of is a sum of words modulo `65535`, in which zero can be written in two ways: as `0`,
which only the sum of nothing but zeros is, and as `0xffff`, which every other multiple of `65535` is.

* `Checksum.total` — the exact sum of the words of a byte string.
* `Checksum.toNat_sumWords` — a sum carried in 32 bits is the exact one as long as that fits.
* `Checksum.sumWords_append` — data can be summed piece by piece.
* `Checksum.fold_modEq`, `Checksum.fold_eq_zero_iff` — folding keeps the residue, and keeps zero apart from the rest.
* `Checksum.fold_congr`, `Checksum.toNat_fold_eq_iff` — nothing else counts: these two decide what a sum folds to.
* `Checksum.ofBytes_eq_zero_iff` — which byte strings have the checksum zero.
* `Checksum.replaceWord_modEq`, `Checksum.replaceWord_lt` — what repairing a checksum does to the sum.
* `Checksum.replaceWord_replaceWord`, `Checksum.replaceWord_self` — what repairing it again does.
-/

namespace XdpEcho

namespace Checksum

/-! ### The exact sum -/

/-- The sum of the words of a byte string. A last odd byte counts as the high byte of a word. -/
def total : Bytes → Nat
  | [] => 0
  | [last] => 256 * last.toNat
  | hi :: lo :: rest => 256 * hi.toNat + lo.toNat + total rest

theorem toNat_word_zero (hi : UInt8) : (Bytes.word hi 0).toNat = 256 * hi.toNat :=
  Bytes.toNat_word hi 0

theorem total_ofWord_append (w : UInt16) (rest : Bytes) : total (Bytes.ofWord w ++ rest) = w.toNat + total rest := by
  have whole := congrArg UInt16.toNat (Bytes.word_of_bytes w)
  rw [Bytes.toNat_word] at whole
  simp only [Bytes.ofWord, List.cons_append, List.nil_append, total, whole]

/-- The words of what follows an even number of bytes are the words that it has by itself. -/
theorem total_append {front : Bytes} (even : front.length % 2 = 0) (rest : Bytes) :
    total (front ++ rest) = total front + total rest := by
  fun_induction total front with
  | case1 => simp
  | case2 last => simp at even
  | case3 hi lo front ih =>
    have even' : front.length % 2 = 0 := by
      simp only [List.length_cons] at even
      omega
    simp only [List.cons_append, total, ih even']
    omega

/-- Each word is at most `65535`. -/
theorem total_le (b : Bytes) : total b ≤ 65535 * ((b.length + 1) / 2) := by
  fun_induction total b with
  | case1 => simp
  | case2 last =>
    have := last.toNat_lt
    simp only [List.length_cons, List.length_nil]
    omega
  | case3 hi lo rest ih =>
    have := hi.toNat_lt
    have := lo.toNat_lt
    simp only [List.length_cons]
    omega

/-- Only zeros sum to zero. -/
theorem total_eq_zero_iff (b : Bytes) : total b = 0 ↔ ∀ x ∈ b, x = 0 := by
  have zero (x : UInt8) : x.toNat = 0 ↔ x = 0 := UInt8.toNat_inj (b := 0)
  fun_induction total b with
  | case1 => simp
  | case2 last => simp [zero]
  | case3 hi lo rest ih => simp [zero, ih, and_assoc]

/-- Data that are not all zeros sum to something. -/
theorem total_ne_zero_iff (b : Bytes) : total b ≠ 0 ↔ ∃ x ∈ b, x ≠ 0 := by
  rw [Ne, total_eq_zero_iff]
  push Not
  rfl

/-- The sum carried in 32 bits is the exact one, modulo `2 ^ 32`. -/
theorem toNat_sumWords (sum : UInt32) (b : Bytes) : (sumWords sum b).toNat = (sum.toNat + total b) % 2 ^ 32 := by
  fun_induction sumWords sum b with
  | case1 sum =>
    rw [total, Nat.add_zero, Nat.mod_eq_of_lt sum.toNat_lt]
  | case2 sum last =>
    rw [UInt32.toNat_add, UInt16.toNat_toUInt32, toNat_word_zero, total]
  | case3 sum hi lo rest ih =>
    rw [ih, UInt32.toNat_add, UInt16.toNat_toUInt32, Bytes.toNat_word, total]
    omega

theorem toNat_sumWords_of_lt {sum : UInt32} {b : Bytes} (fits : sum.toNat + total b < 2 ^ 32) :
    (sumWords sum b).toNat = sum.toNat + total b := by
  rw [toNat_sumWords, Nat.mod_eq_of_lt fits]

/-- Data can be summed piece by piece, as long as no word is cut in two. -/
theorem sumWords_append (sum : UInt32) {front : Bytes} (even : front.length % 2 = 0) (rest : Bytes) :
    sumWords sum (front ++ rest) = sumWords (sumWords sum front) rest := by
  rw [← UInt32.toNat_inj, toNat_sumWords, toNat_sumWords, toNat_sumWords, total_append even]
  omega

/-! ### Folding -/

/-- Nothing is carried when nothing is left above the low sixteen bits. -/
theorem carry_of_lt {sum : UInt32} (lt : sum.toNat < 0x10000) : carry sum = sum := by
  rw [← UInt32.toNat_inj, toNat_carry]
  omega

/-- However often the carries have been brought back, what is left is `fold` as soon as it has sixteen bits. -/
theorem fold_eq_of_iterate_carry {sum : UInt32} {n : Nat} (done : (carry^[n] sum).toNat < 0x10000) :
    fold sum = (carry^[n] sum).toUInt16 := by
  have still : carry^[2] (carry^[n] sum) = carry^[n] sum := by
    simp only [Function.iterate_succ, Function.iterate_zero, Function.comp_apply, id_eq, carry_of_lt done]
  have settled : carry^[n] (carry^[2] sum) = carry^[2] sum :=
    Function.iterate_fixed (carry_of_lt (toNat_carry_carry_lt sum)) n
  have same : carry^[n] sum = carry^[2] sum := by
    rw [← still, ← Function.iterate_add_apply, Nat.add_comm, Function.iterate_add_apply, settled]
  rw [same]
  rfl

theorem carry_modEq (sum : UInt32) : (carry sum).toNat ≡ sum.toNat [MOD 65535] := by
  rw [toNat_carry, Nat.ModEq]
  omega

theorem carry_eq_zero_iff (sum : UInt32) : (carry sum).toNat = 0 ↔ sum.toNat = 0 := by
  rw [toNat_carry]
  omega

theorem toNat_fold (sum : UInt32) : (fold sum).toNat = (carry (carry sum)).toNat := by
  rw [fold, UInt32.toNat_toUInt16, Nat.mod_eq_of_lt (toNat_carry_carry_lt sum)]

theorem fold_modEq (sum : UInt32) : (fold sum).toNat ≡ sum.toNat [MOD 65535] := by
  rw [toNat_fold]
  exact (carry_modEq _).trans (carry_modEq sum)

theorem fold_eq_zero_iff (sum : UInt32) : (fold sum).toNat = 0 ↔ sum.toNat = 0 := by
  rw [toNat_fold, carry_eq_zero_iff, carry_eq_zero_iff]

/-- The residue of a sum, and whether it is zero, is all that folding keeps of it. -/
theorem fold_congr {a b : UInt32} (same : a.toNat ≡ b.toNat [MOD 65535]) (zero : a.toNat = 0 ↔ b.toNat = 0) :
    fold a = fold b := by
  have ltA := (fold a).toNat_lt
  have ltB := (fold b).toNat_lt
  have keepsA := fold_modEq a
  have keepsB := fold_modEq b
  have zeroA := fold_eq_zero_iff a
  have zeroB := fold_eq_zero_iff b
  rw [← UInt16.toNat_inj]
  simp only [Nat.ModEq] at same keepsA keepsB
  omega

/-- What a sum other than zero folds to is the one number from 1 to 65535 that has its residue. -/
theorem toNat_fold_eq_iff {sum : UInt32} (some : sum.toNat ≠ 0) (v : Nat) :
    (fold sum).toNat = v ↔ 1 ≤ v ∧ v ≤ 65535 ∧ v ≡ sum.toNat [MOD 65535] := by
  have lt := (fold sum).toNat_lt
  have keeps := fold_modEq sum
  have zero := fold_eq_zero_iff sum
  constructor
  · rintro rfl
    exact ⟨by omega, by omega, keeps⟩
  · rintro ⟨positive, bounded, same⟩
    simp only [Nat.ModEq] at same keeps
    omega

/-- The sums that fold to all ones are the multiples of `65535` but zero. -/
theorem fold_eq_max_iff (sum : UInt32) : fold sum = 0xffff ↔ sum.toNat ≠ 0 ∧ sum.toNat ≡ 0 [MOD 65535] := by
  have lt := (fold sum).toNat_lt
  have same := fold_modEq sum
  have zero := fold_eq_zero_iff sum
  have max : fold sum = 0xffff ↔ (fold sum).toNat = 65535 := UInt16.toNat_inj.symm
  simp only [max, Nat.ModEq] at same ⊢
  omega

/-! ### Checksums -/

theorem toNat_not (w : UInt16) : (~~~ w).toNat = 65535 - w.toNat := by
  rw [UInt16.toNat_not]
  rfl

/-- A complement is zero exactly when all bits are set. -/
theorem not_eq_zero_iff (w : UInt16) : ~~~ w = 0 ↔ w = 0xffff := by
  have lt := w.toNat_lt
  rw [← UInt16.toNat_inj, ← UInt16.toNat_inj, toNat_not]
  change 65535 - w.toNat = 0 ↔ w.toNat = 65535
  omega

/-- Data are short when the sum of their words cannot be too large for 32 bits: there is room for `65537` words. -/
def Short (b : Bytes) : Prop := b.length ≤ 131074

theorem Short.total_lt {b : Bytes} (short : Short b) : total b < 2 ^ 32 := by
  have le := total_le b
  rw [Short] at short
  omega

theorem toNat_sumWords_zero {b : Bytes} (short : Short b) : (sumWords 0 b).toNat = total b := by
  have fits : (0 : UInt32).toNat + total b < 2 ^ 32 := by
    simpa using short.total_lt
  rw [toNat_sumWords_of_lt fits]
  exact Nat.zero_add _

theorem Short.fold_modEq {b : Bytes} (short : Short b) : (fold (sumWords 0 b)).toNat ≡ total b [MOD 65535] := by
  rw [← toNat_sumWords_zero short]
  exact Checksum.fold_modEq _

theorem Short.fold_eq_zero_iff {b : Bytes} (short : Short b) : (fold (sumWords 0 b)).toNat = 0 ↔ total b = 0 := by
  rw [Checksum.fold_eq_zero_iff, toNat_sumWords_zero short]

theorem toNat_ofBytes (b : Bytes) : (ofBytes b).toNat = 65535 - (fold (sumWords 0 b)).toNat :=
  toNat_not _

/-- Data with the same sum have the same checksum, however often the sum overflows. -/
theorem ofBytes_congr {b d : Bytes} (same : total d = total b) : ofBytes d = ofBytes b := by
  have sums : sumWords 0 d = sumWords 0 b := by
    rw [← UInt32.toNat_inj, toNat_sumWords, toNat_sumWords, same]
  rw [ofBytes, ofBytes, sums]

/-- Exactly the data that are not all zeros and whose words sum to a multiple of `65535` have the checksum zero. -/
theorem ofBytes_eq_zero_iff {b : Bytes} (short : Short b) :
    ofBytes b = 0 ↔ total b ≠ 0 ∧ total b ≡ 0 [MOD 65535] := by
  rw [ofBytes, not_eq_zero_iff, fold_eq_max_iff, toNat_sumWords_zero short]

/-- The checksum of nothing but zeros. -/
theorem ofBytes_of_total_eq_zero {b : Bytes} (short : Short b) (zeros : total b = 0) : ofBytes b = 0xffff := by
  rw [← UInt16.toNat_inj, toNat_ofBytes, short.fold_eq_zero_iff.mpr zeros]
  rfl

/-- A word is the complement of a folded sum other than zero when it makes up for the sum and is not all ones. -/
theorem eq_not_fold {w : UInt16} {sum : UInt32} (some : sum.toNat ≠ 0) (lt : w.toNat < 65535)
    (makesUp : w.toNat + sum.toNat ≡ 0 [MOD 65535]) : w = ~~~ fold sum := by
  have notZero := (fold_eq_zero_iff sum).not.mpr some
  have same := fold_modEq sum
  have bound := (fold sum).toNat_lt
  rw [← UInt16.toNat_inj, toNat_not]
  rw [Nat.ModEq] at same makesUp
  omega

/-! ### Repairing a checksum -/

/-- The sum that `replaceWord` folds. It has room in 32 bits. -/
theorem toNat_replaced (check old new : UInt16) :
    ((~~~ check).toUInt32 + (~~~ old).toUInt32 + new.toUInt32).toNat =
      (65535 - check.toNat) + (65535 - old.toNat) + new.toNat := by
  have := new.toNat_lt
  rw [UInt32.toNat_add, UInt32.toNat_add, UInt16.toNat_toUInt32, UInt16.toNat_toUInt32, UInt16.toNat_toUInt32, toNat_not,
    toNat_not]
  omega

/-- A repaired checksum and the new word sum to what the checksum and the old word summed to. -/
theorem replaceWord_modEq (check old new : UInt16) :
    (replaceWord check old new).toNat + new.toNat ≡ check.toNat + old.toNat [MOD 65535] := by
  have same := fold_modEq ((~~~ check).toUInt32 + (~~~ old).toUInt32 + new.toUInt32)
  have lt := (fold ((~~~ check).toUInt32 + (~~~ old).toUInt32 + new.toUInt32)).toNat_lt
  have := check.toNat_lt
  have := old.toNat_lt
  rw [toNat_replaced] at same
  rw [replaceWord, toNat_not]
  rw [Nat.ModEq] at same ⊢
  omega

/-- A repaired checksum is all ones only when there is nothing to sum. -/
theorem toNat_replaceWord_eq_max_iff (check old new : UInt16) :
    (replaceWord check old new).toNat = 65535 ↔ check.toNat = 65535 ∧ old.toNat = 65535 ∧ new.toNat = 0 := by
  have zero := fold_eq_zero_iff ((~~~ check).toUInt32 + (~~~ old).toUInt32 + new.toUInt32)
  have lt := (fold ((~~~ check).toUInt32 + (~~~ old).toUInt32 + new.toUInt32)).toNat_lt
  have := check.toNat_lt
  have := old.toNat_lt
  rw [toNat_replaced] at zero
  rw [replaceWord, toNat_not]
  omega

/-- A repaired checksum is not all ones when the old word was not. -/
theorem replaceWord_lt (check : UInt16) {old : UInt16} (new : UInt16) (notOnes : old ≠ 0xffff) :
    (replaceWord check old new).toNat < 65535 := by
  have lt := (replaceWord check old new).toNat_lt
  have ones := toNat_replaceWord_eq_max_iff check old new
  have ne : old.toNat ≠ 65535 := fun all => notOnes (UInt16.toNat_inj.mp all)
  omega

/-- Repairs of one word compose, but for the case in which the one repair has nothing to sum: then it gives all ones,
and the two give zero. -/
theorem replaceWord_replaceWord {check old new : UInt16} (some : ¬ (check = 0xffff ∧ old = 0xffff ∧ new = 0))
    (middle : UInt16) : replaceWord (replaceWord check old middle) middle new = replaceWord check old new := by
  have first := replaceWord_modEq check old middle
  have ones := toNat_replaceWord_eq_max_iff check old middle
  have := (replaceWord check old middle).toNat_lt
  have := check.toNat_lt
  have := old.toNat_lt
  have := middle.toNat_lt
  have max : (0xffff : UInt16).toNat = 65535 := rfl
  simp only [← UInt16.toNat_inj, max, UInt16.toNat_zero] at some
  refine congrArg (~~~ ·) (fold_congr ?_ ?_)
  · rw [toNat_replaced, toNat_replaced]
    rw [Nat.ModEq] at first ⊢
    omega
  · rw [toNat_replaced, toNat_replaced]
    omega

/-- Repairing a checksum for a word that stays brings the one zero in place of the other, and nothing else. -/
theorem replaceWord_self (check word : UInt16) :
    replaceWord check word word = if check = 0xffff then 0 else check := by
  have same := replaceWord_modEq check word word
  have ones := toNat_replaceWord_eq_max_iff check word word
  have := (replaceWord check word word).toNat_lt
  have := check.toNat_lt
  have max : (0xffff : UInt16).toNat = 65535 := rfl
  rw [Nat.ModEq] at same
  split
  next all =>
    subst all
    rw [← UInt16.toNat_inj, UInt16.toNat_zero]
    omega
  next other =>
    rw [← UInt16.toNat_inj, max] at other
    rw [← UInt16.toNat_inj]
    omega

end Checksum

end XdpEcho
