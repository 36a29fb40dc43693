import XdpEcho.Proofs.Checksum.OnesComplement

/-!
# Checksums of data in which a word changes

A checksum is a sum, so another word in place of one that was there changes it by the difference of the two, wherever
they stand and whatever else there is. What follows is that a checksum can be repaired without reading the data again,
that data with their checksum stored among them verify, and that a change of one word is noticed; each of them but for
the two ways to write zero.

* `Bytes.wordAt`, `Bytes.setWord`, `Bytes.SameBut` — one word of a byte string, and byte strings that differ in it.
* `Checksum.total_add_wordAt` — the exchange of a word, as an equation between sums.
* `Checksum.replaceWord_recomputes` — a repaired checksum is the one that is computed anew.
* `Checksum.verifies_itself` — what a sum folds to, and what a stored checksum is good for.
-/

namespace XdpEcho

namespace Bytes

/-! ### One word of a byte string -/

/-- The word at an offset. Bytes that are not there count as zeros. -/
def wordAt (b : Bytes) (offset : Nat) : UInt16 :=
  word (b.getD offset 0) (b.getD (offset + 1) 0)

/-- The byte string with another word at an offset. -/
def setWord (b : Bytes) (offset : Nat) (w : UInt16) : Bytes :=
  b.take offset ++ ofWord w ++ b.drop (offset + 2)

/-- Byte strings of one length that are the same but for the word at an offset. -/
structure SameBut (offset : Nat) (b d : Bytes) : Prop where
  length : d.length = b.length
  getElem? : ∀ i, i ≠ offset → i ≠ offset + 1 → d[i]? = b[i]?

variable {b d : Bytes} {offset : Nat}

theorem length_setWord (within : offset + 2 ≤ b.length) (w : UInt16) : (b.setWord offset w).length = b.length := by
  simp only [setWord, length_ofWord, List.length_append, List.length_take, List.length_drop]
  omega

theorem wordAt_setWord (within : offset + 2 ≤ b.length) (w : UInt16) : (b.setWord offset w).wordAt offset = w := by
  have front : (b.take offset).length = offset := List.length_take_of_le (by omega)
  have first : (b.setWord offset w)[offset]? = some (UInt8.ofNat (w.toNat / 256)) := by
    rw [setWord, List.append_assoc, List.getElem?_append_right (by omega), front, Nat.sub_self]
    rfl
  have second : (b.setWord offset w)[offset + 1]? = some (UInt8.ofNat (w.toNat % 256)) := by
    rw [setWord, List.append_assoc, List.getElem?_append_right (by omega), front, Nat.add_sub_cancel_left]
    rfl
  rw [wordAt, List.getD_eq_getElem?_getD, List.getD_eq_getElem?_getD, first, second]
  exact word_of_bytes w

theorem sameBut_setWord (within : offset + 2 ≤ b.length) (w : UInt16) : SameBut offset b (b.setWord offset w) := by
  refine ⟨length_setWord within w, fun i before behind => ?_⟩
  have front : (b.take offset ++ ofWord w).length = offset + 2 := by
    simp only [length_ofWord, List.length_append, List.length_take]
    omega
  rw [setWord]
  rcases Nat.lt_or_ge i offset with lt | ge
  · rw [List.append_assoc, List.getElem?_append_left (by rw [List.length_take]; omega), List.getElem?_take, if_pos lt]
  · rw [List.getElem?_append_right (by omega), front, List.getElem?_drop]
    congr 1
    omega

end Bytes

namespace Checksum

open Bytes

/-! ### Sums and one of their words -/

variable {b d : Bytes} {offset : Nat}

/-- The word at an even offset is a part of the sum. -/
theorem total_eq_parts (even : offset % 2 = 0) (b : Bytes) :
    total b = total (b.take offset) + (b.wordAt offset).toNat + total (b.drop (offset + 2)) := by
  fun_induction total b generalizing offset with
  | case1 => simp [wordAt, toNat_word, total]
  | case2 last =>
    rcases offset with _ | _ | offset
    · simp [wordAt, toNat_word, total]
    · simp at even
    · simp [wordAt, toNat_word, total]
  | case3 hi lo rest ih =>
    rcases offset with _ | _ | offset
    · simp [wordAt, toNat_word, total]
    · simp at even
    · have parts := ih (by omega : offset % 2 = 0)
      have same : wordAt (hi :: lo :: rest) (offset + 2) = wordAt rest offset := rfl
      rw [List.take_succ_cons, List.take_succ_cons, List.drop_succ_cons, List.drop_succ_cons, total, same, parts]
      omega

theorem wordAt_le_total (even : offset % 2 = 0) (b : Bytes) : (b.wordAt offset).toNat ≤ total b := by
  have parts := total_eq_parts even b
  omega

/-- When only one word changes, the sum changes by the difference of the two words. -/
theorem total_add_wordAt (same : SameBut offset b d) (even : offset % 2 = 0) :
    total d + (b.wordAt offset).toNat = total b + (d.wordAt offset).toNat := by
  have before : d.take offset = b.take offset := by
    refine List.ext_getElem? fun i => ?_
    rw [List.getElem?_take, List.getElem?_take]
    split
    next lt => exact same.getElem? i (by omega) (by omega)
    next => rfl
  have behind : d.drop (offset + 2) = b.drop (offset + 2) := by
    refine List.ext_getElem? fun i => ?_
    rw [List.getElem?_drop, List.getElem?_drop]
    exact same.getElem? _ (by omega) (by omega)
  have partsB := total_eq_parts even b
  have partsD := total_eq_parts even d
  rw [before, behind] at partsD
  omega

theorem total_setWord (even : offset % 2 = 0) (within : offset + 2 ≤ b.length) (w : UInt16) :
    total (b.setWord offset w) + (b.wordAt offset).toNat = total b + w.toNat := by
  rw [total_add_wordAt (sameBut_setWord within w) even, wordAt_setWord within]

theorem Short.setWord (short : Short b) (within : offset + 2 ≤ b.length) (w : UInt16) : Short (b.setWord offset w) := by
  rw [Short, length_setWord within]
  exact short

/-! ### Repairing a checksum -/

/-- The sum that `replaceWord` folds when it repairs the checksum of some data. -/
theorem toNat_replaced_ofBytes (b : Bytes) (old new : UInt16) :
    ((~~~ ofBytes b).toUInt32 + (~~~ old).toUInt32 + new.toUInt32).toNat =
      (fold (sumWords 0 b)).toNat + (65535 - old.toNat) + new.toNat := by
  have lt := (fold (sumWords 0 b)).toNat_lt
  rw [toNat_replaced, toNat_ofBytes]
  omega

/-- It is not zero, since data whose words sum to zero have no word of all ones among them. -/
theorem replaced_ne_zero (short : Short b) (even : offset % 2 = 0) (new : UInt16) :
    ((~~~ ofBytes b).toUInt32 + (~~~ b.wordAt offset).toUInt32 + new.toUInt32).toNat ≠ 0 := by
  have part := wordAt_le_total even b
  have folded := short.fold_eq_zero_iff
  rw [toNat_replaced_ofBytes]
  omega

/-- It has the residue of the data with the new word. -/
theorem replaced_modEq (short : Short b) (even : offset % 2 = 0) (within : offset + 2 ≤ b.length) (new : UInt16) :
    ((~~~ ofBytes b).toUInt32 + (~~~ b.wordAt offset).toUInt32 + new.toUInt32).toNat ≡
      total (b.setWord offset new) [MOD 65535] := by
  have exchanged := total_setWord even within new
  have word := (b.wordAt offset).toNat_lt
  have folded := short.fold_modEq
  rw [toNat_replaced_ofBytes]
  rw [Nat.ModEq] at folded ⊢
  omega

/-- A repaired checksum is the one that is computed anew, whatever the data, wherever the word stands, and whatever it
is replaced by. The one exception are data that are nothing but zeros after the change: zero is the repaired checksum,
and all ones are computed anew. Where the checksum itself is kept does not matter, as long as it is not covered. -/
theorem replaceWord_recomputes (short : b.length ≤ 131074) (even : offset % 2 = 0) (within : offset + 2 ≤ b.length)
    (new : UInt16) :
    let changed := b.setWord offset new
    ((∃ x ∈ changed, x ≠ 0) → replaceWord (ofBytes b) (b.wordAt offset) new = ofBytes changed) ∧
      ((∀ x ∈ changed, x = 0) →
        replaceWord (ofBytes b) (b.wordAt offset) new = 0 ∧ ofBytes changed = 0xffff) := by
  intro changed
  have short' : Short changed := Short.setWord short within new
  have some := replaced_ne_zero short even new
  have same := replaced_modEq short even within new
  constructor
  · intro other
    rw [← total_ne_zero_iff] at other
    rw [← toNat_sumWords_zero short'] at same other
    have folded := fold_congr same ⟨fun none => (some none).elim, fun none => (other none).elim⟩
    rw [replaceWord, folded]
    rfl
  · intro zeros
    rw [← total_eq_zero_iff] at zeros
    have all : fold ((~~~ ofBytes b).toUInt32 + (~~~ b.wordAt offset).toUInt32 + new.toUInt32) = 0xffff := by
      refine (fold_eq_max_iff _).mpr ⟨some, ?_⟩
      rwa [zeros] at same
    rw [replaceWord, all]
    exact ⟨rfl, ofBytes_of_total_eq_zero short' zeros⟩

/-- An echo request becomes a reply, once with some data and once as the shortest message of all, which is zeros by
then. -/
theorem replaceWord_recomputes_for_a_reply :
    let request : Bytes := [0x08, 0x00, 0x00, 0x00, 0x12, 0x34, 0x00, 0x01, 0xde, 0xad, 0xbe, 0xef, 0x7f]
    let least : Bytes := [0x08, 0x00, 0x00, 0x00, 0x00, 0x00, 0x00, 0x00]
    replaceWord (ofBytes request) 0x0800 0 = ofBytes (request.setWord 0 0) ∧
      replaceWord (ofBytes least) 0x0800 0 = 0 ∧ ofBytes (least.setWord 0 0) = 0xffff := by
  intro request least
  have within : 0 + 2 ≤ request.length := by decide
  have within' : 0 + 2 ≤ least.length := by decide
  have repaired := replaceWord_recomputes (by decide) (by decide) within 0
  have silent := replaceWord_recomputes (by decide) (by decide) within' 0
  have zeros : ∀ x ∈ least.setWord 0 0, x = 0 := (total_eq_zero_iff _).mp rfl
  exact ⟨repaired.1 ⟨0x12, by decide, by decide⟩, silent.2 zeros⟩

/-! ### Checksums stored among the data -/

/-- Data verify once their checksum has been stored among them, in place of whatever word was there. -/
theorem ofBytes_setWord_ofBytes (short : Short b) (even : offset % 2 = 0) (within : offset + 2 ≤ b.length) :
    ofBytes (b.setWord offset (ofBytes (b.setWord offset 0))) = 0 := by
  have short' := short.setWord within 0
  have folded := short'.fold_modEq
  have zero := short'.fold_eq_zero_iff
  have lt := (fold (sumWords 0 (b.setWord offset 0))).toNat_lt
  have blank := total_setWord even within 0
  have whole := total_setWord even within (ofBytes (b.setWord offset 0))
  rw [UInt16.toNat_zero, Nat.add_zero] at blank
  rw [toNat_ofBytes] at whole
  rw [Nat.ModEq] at folded
  refine (ofBytes_eq_zero_iff (short.setWord within _)).mpr ⟨?_, ?_⟩
  · -- Where all the rest is zero, all ones are stored.
    omega
  · rw [Nat.ModEq]
    omega

/-- Two words have one residue when they are the same, or when they are the two zeros. -/
theorem word_modEq_iff {w v : UInt16} (other : v ≠ w) :
    v.toNat ≡ w.toNat [MOD 65535] ↔ w = 0 ∧ v = 0xffff ∨ w = 0xffff ∧ v = 0 := by
  have ltW := w.toNat_lt
  have ltV := v.toNat_lt
  have ones : (0xffff : UInt16).toNat = 65535 := rfl
  rw [Ne, ← UInt16.toNat_inj] at other
  simp only [← UInt16.toNat_inj, UInt16.toNat_zero, ones, Nat.ModEq]
  omega

/-- Data that verified do not after one of their words has changed, unless the word was one zero and is the other
now. -/
theorem ofBytes_eq_zero_iff_of_sameBut (short : Short b) (even : offset % 2 = 0) (same : SameBut offset b d)
    (other : d.wordAt offset ≠ b.wordAt offset) (verified : ofBytes b = 0) :
    ofBytes d = 0 ↔ (∃ x ∈ d, x ≠ 0) ∧
      (b.wordAt offset = 0 ∧ d.wordAt offset = 0xffff ∨ b.wordAt offset = 0xffff ∧ d.wordAt offset = 0) := by
  have exchanged := total_add_wordAt same even
  have short' : Short d := same.length.trans_le short
  have before := ((ofBytes_eq_zero_iff short).mp verified).2
  rw [ofBytes_eq_zero_iff short', ← total_ne_zero_iff, ← word_modEq_iff other]
  simp only [Nat.ModEq] at before ⊢
  refine and_congr_right fun _ => ?_
  omega

/-- A checksum is the complement of the one's-complement sum of its data, and data with their checksum verify.

Nothing is lost when the words are summed in 32 bits, and the sum can be taken piece by piece. It folds to zero when
there is nothing but zeros, and to the one number from 1 to 65535 that has its residue otherwise; two carries are
enough, and more of them change nothing. So data in which their own checksum is stored verify. When one word of them is
changed after that they do not verify any more, unless the word was one of the two zeros and is the other now. A last
odd byte counts as a word, too. -/
theorem verifies_itself (short : b.length ≤ 131074) :
    (sumWords 0 b).toNat = total b ∧
      ((∀ x ∈ b, x = 0) → fold (sumWords 0 b) = 0) ∧
      ((∃ x ∈ b, x ≠ 0) → ∀ v : Nat,
        (fold (sumWords 0 b)).toNat = v ↔ 1 ≤ v ∧ v ≤ 65535 ∧ v ≡ total b [MOD 65535]) ∧
      (∀ sum : UInt32, (carry^[2] sum).toNat < 0x10000 ∧
        ∀ n, (carry^[n] sum).toNat < 0x10000 → fold sum = (carry^[n] sum).toUInt16) ∧
      (∀ (sum : UInt32) (front rest : Bytes), front.length % 2 = 0 →
        sumWords sum (front ++ rest) = sumWords (sumWords sum front) rest) ∧
      (∀ offset, offset % 2 = 0 → offset + 2 ≤ b.length →
        ofBytes (b.setWord offset (ofBytes (b.setWord offset 0))) = 0) ∧
      ∀ (offset : Nat) (d : Bytes), offset % 2 = 0 → SameBut offset b d → d.wordAt offset ≠ b.wordAt offset →
        ofBytes b = 0 → (ofBytes d = 0 ↔ (∃ x ∈ d, x ≠ 0) ∧
          (b.wordAt offset = 0 ∧ d.wordAt offset = 0xffff ∨ b.wordAt offset = 0xffff ∧ d.wordAt offset = 0)) := by
  have exact' := toNat_sumWords_zero short
  refine ⟨exact', ?_, ?_, ?_, ?_, ?_, ?_⟩
  · intro zeros
    rw [← UInt16.toNat_inj]
    exact Short.fold_eq_zero_iff short |>.mpr ((total_eq_zero_iff b).mpr zeros)
  · intro other v
    rw [← total_ne_zero_iff, ← exact'] at other
    rw [toNat_fold_eq_iff other, exact']
  · exact fun sum => ⟨toNat_carry_carry_lt sum, fun _ done => fold_eq_of_iterate_carry done⟩
  · exact fun sum _ rest even => sumWords_append sum even rest
  · exact fun _ even within => ofBytes_setWord_ofBytes short even within
  · exact fun _ _ even same other verified => ofBytes_eq_zero_iff_of_sameBut short even same other verified

/-- Five bytes with their checksum among them. A change of the odd byte is noticed, and one zero in place of the other
is not. -/
theorem verifies_itself_with_an_odd_byte :
    let data : Bytes := [0x00, 0x00, 0x60, 0x09, 0xf4, 0xf5, 0xab]
    (fold (sumWords 0 [0x00, 0x00, 0x00, 0x00, 0xf4, 0xf5, 0xab])).toNat = 0x9ff6 ∧
      (data.setWord 2 0).setWord 2 (ofBytes ((data.setWord 2 0).setWord 2 0)) = data ∧ ofBytes data = 0 ∧
      ofBytes [0x00, 0x00, 0x60, 0x09, 0xf4, 0xf5, 0xac] ≠ 0 ∧
      ofBytes [0xff, 0xff, 0x60, 0x09, 0xf4, 0xf5, 0xab] = 0 := by
  intro data
  obtain ⟨-, -, folded, -, -, stored, -⟩ := verifies_itself (b := data.setWord 2 0) (by decide)
  obtain ⟨-, -, -, -, -, -, noticed⟩ := verifies_itself (b := data) (by decide)
  have whole : (data.setWord 2 0).setWord 2 (ofBytes ((data.setWord 2 0).setWord 2 0)) = data := by decide
  have verified : ofBytes data = 0 := whole ▸ stored 2 (by decide) (by decide)
  have tail : SameBut 6 data [0x00, 0x00, 0x60, 0x09, 0xf4, 0xf5, 0xac] := by
    have front : ∀ i < 6, ([0x00, 0x00, 0x60, 0x09, 0xf4, 0xf5, 0xac] : Bytes)[i]? = data[i]? := by decide
    refine ⟨rfl, fun i here _ => ?_⟩
    rcases Nat.lt_trichotomy i 6 with before | last | behind
    · exact front i before
    · exact (here last).elim
    · rw [List.getElem?_eq_none behind, List.getElem?_eq_none behind]
  have changed := noticed 6 _ (by decide) tail (by decide) verified
  have zeros := noticed 0 _ (by decide) (sameBut_setWord (by decide) 0xffff) (by decide) verified
  refine ⟨(folded ⟨0xf4, by decide, by decide⟩ 0x9ff6).mpr ⟨by decide, by decide, by decide⟩, whole, verified, ?_, ?_⟩
  · intro unnoticed
    exact absurd (changed.mp unnoticed).2 (by decide)
  · exact zeros.mpr ⟨⟨0xff, by decide, by decide⟩, .inl ⟨by decide, by decide⟩⟩

end Checksum

end XdpEcho
