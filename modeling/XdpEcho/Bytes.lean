import XdpEcho.Text.Number

/-!
# Byte strings

Packets, payloads and file contents are lists of bytes, the first byte on the wire first. This module reads
fixed-size fields off the front of such a list and writes them back, and gives byte strings as hexadecimal text.

* `split?`, `octets?`, `byte?`, `word?` take a field off the front and return the rest.
* `octets?_eq_some_iff`, `byte?_eq_some_iff`, `word?_eq_some_iff` — reading a field succeeds exactly when the byte
  string is that field's bytes followed by the rest.
-/

namespace XdpEcho

/-- A byte string, the first byte on the wire first. -/
abbrev Bytes := List UInt8

namespace Bytes

/-! ### Sixteen-bit words in network order -/

/-- The word whose high byte is `hi` and whose low byte is `lo`. -/
def word (hi lo : UInt8) : UInt16 :=
  UInt16.ofNat (256 * hi.toNat + lo.toNat)

/-- The two bytes of a word, high byte first. -/
def ofWord (w : UInt16) : Bytes :=
  [UInt8.ofNat (w.toNat / 256), UInt8.ofNat (w.toNat % 256)]

@[simp] theorem length_ofWord (w : UInt16) : (ofWord w).length = 2 := by
  simp only [ofWord, List.length_cons, List.length_nil]

theorem toNat_word (hi lo : UInt8) : (word hi lo).toNat = 256 * hi.toNat + lo.toNat := by
  have h1 := hi.toNat_lt
  have h2 := lo.toNat_lt
  simp only [word, UInt16.toNat_ofNat']
  omega

theorem ofWord_word (hi lo : UInt8) : ofWord (word hi lo) = [hi, lo] := by
  have h1 := hi.toNat_lt
  have h2 := lo.toNat_lt
  simp only [ofWord, toNat_word]
  rw [show (256 * hi.toNat + lo.toNat) / 256 = hi.toNat by omega,
    show (256 * hi.toNat + lo.toNat) % 256 = lo.toNat by omega]
  simp

theorem word_of_bytes (w : UInt16) :
    word (UInt8.ofNat (w.toNat / 256)) (UInt8.ofNat (w.toNat % 256)) = w := by
  have h := w.toNat_lt
  apply UInt16.toNat_inj.mp
  simp only [toNat_word, UInt8.toNat_ofNat']
  omega

/-! ### Fields at the front -/

/-- The first `n` bytes and the rest, when there are that many. -/
def split? (n : Nat) (b : Bytes) : Option (Bytes × Bytes) :=
  if n ≤ b.length then some (b.take n, b.drop n) else none

/-- The first `n` bytes as a vector and the rest, when there are that many. -/
def octets? (n : Nat) (b : Bytes) : Option (Vector UInt8 n × Bytes) :=
  if h : n ≤ b.length then some (⟨(b.take n).toArray, by simp [h]⟩, b.drop n) else none

def byte? : Bytes → Option (UInt8 × Bytes)
  | [] => none
  | b :: rest => some (b, rest)

/-- The first word in network order and the rest. -/
def word? : Bytes → Option (UInt16 × Bytes)
  | hi :: lo :: rest => some (word hi lo, rest)
  | _ => none

theorem split?_eq_some_iff {n : Nat} {b front rest : Bytes} :
    split? n b = some (front, rest) ↔ b = front ++ rest ∧ front.length = n := by
  unfold split?
  split
  · next h =>
    simp only [Option.some.injEq, Prod.mk.injEq]
    constructor
    · rintro ⟨rfl, rfl⟩
      simp [h]
    · rintro ⟨rfl, rfl⟩
      simp
  · next h =>
    simp only [reduceCtorEq, false_iff, not_and]
    rintro rfl hn
    simp at h
    omega

theorem octets?_eq_some_iff {n : Nat} {b rest : Bytes} {v : Vector UInt8 n} :
    octets? n b = some (v, rest) ↔ b = v.toList ++ rest := by
  unfold octets?
  split
  · next h =>
    simp only [Option.some.injEq, Prod.mk.injEq]
    constructor
    · rintro ⟨rfl, rfl⟩
      simp [Vector.toList]
    · rintro rfl
      have hv : v.toList.length = n := by simp
      constructor
      · rw [Vector.ext_iff]
        intro i _
        simp
      · simp
  · next h =>
    simp only [reduceCtorEq, false_iff]
    rintro rfl
    simp at h

theorem byte?_eq_some_iff {b rest : Bytes} {x : UInt8} :
    byte? b = some (x, rest) ↔ b = x :: rest := by
  cases b <;> simp [byte?]

theorem word?_eq_some_iff {b rest : Bytes} {w : UInt16} :
    word? b = some (w, rest) ↔ b = ofWord w ++ rest := by
  match b with
  | [] => simp [word?, ofWord]
  | [x] => simp [word?, ofWord]
  | hi :: lo :: r =>
    simp only [word?, Option.some.injEq, Prod.mk.injEq]
    constructor
    · rintro ⟨rfl, rfl⟩
      simp [ofWord_word]
    · intro h
      simp only [ofWord, List.cons_append, List.nil_append, List.cons.injEq] at h
      obtain ⟨rfl, rfl, rfl⟩ := h
      exact ⟨word_of_bytes w, rfl⟩

/-! ### Hexadecimal text -/

/-- The lower-case hexadecimal digit of a number below 16. -/
def hexDigit (n : Nat) : Char :=
  if n < 10 then Char.ofNat ('0'.toNat + n) else Char.ofNat ('a'.toNat + (n - 10))

def toHex (b : Bytes) : String :=
  String.ofList (b.flatMap fun x => [hexDigit (x.toNat / 16), hexDigit (x.toNat % 16)])

/-- The bytes that pairs of hexadecimal digits stand for. -/
def ofHexDigits? : List Char → Option Bytes
  | [] => some []
  | [_] => none
  | hi :: lo :: rest => do
    let hi ← Number.digit? 16 hi
    let lo ← Number.digit? 16 lo
    let rest ← ofHexDigits? rest
    return UInt8.ofNat (16 * hi + lo) :: rest

/-- The byte string written as hexadecimal text, or `none` for text of another form. -/
def ofHex? (text : String) : Option Bytes :=
  ofHexDigits? text.toList

end Bytes

end XdpEcho
