import Mathlib.Data.List.Forall2
import Mathlib.Data.Nat.Digits.Defs
import Mathlib.Tactic.Ring
import XdpEcho.Text.Number

/-!
# Which texts are numbers

A number is read from left to right, and reading stops at the first fault. Nothing of this shows in what is read: a text
is accepted exactly when it is a numeral, and the value of the numeral is not too large. A value that is too large on the
way is too large at the end, since more digits never make it smaller.

* `Number.IsDigit`, `Number.Writes` — digits and numerals.
* `Number.digit?_eq_some_iff` — exactly the digits have a value.
* `Number.digits_eq_ok_iff` — reading digits, from any value on.
* `Number.parse_eq_ok_iff` — exactly the numerals of at most the largest value are accepted.
-/

namespace XdpEcho

namespace Number

/-! ### Numerals -/

def lowerDigits : List Char :=
  ['0', '1', '2', '3', '4', '5', '6', '7', '8', '9', 'a', 'b', 'c', 'd', 'e', 'f']

def upperDigits : List Char :=
  ['0', '1', '2', '3', '4', '5', '6', '7', '8', '9', 'A', 'B', 'C', 'D', 'E', 'F']

/-- The character is the digit of the given value, in either case. -/
def IsDigit (base : Nat) (c : Char) (value : Nat) : Prop :=
  value < base ∧ (lowerDigits[value]? = some c ∨ upperDigits[value]? = some c)

/-- The text is a numeral of the given value: a plus sign or none, and then at least one digit, the highest first. There
may be zeros in front. -/
def Writes (base : Nat) (text : List Char) (n : Nat) : Prop :=
  ∃ sign digits values, text = sign ++ digits ∧ (sign = [] ∨ sign = ['+']) ∧ digits ≠ [] ∧
    List.Forall₂ (IsDigit base) digits values ∧ Nat.ofDigits base values.reverse = n

variable {base largest value n : Nat} {c : Char} {text : List Char}

/-! ### Digits -/

/-- The digits stand in the order of their codes, in three runs. -/
theorem getElem?_lowerDigits : ∀ i < 10, lowerDigits[i]? = some (Char.ofNat (48 + i)) := by
  decide

theorem getElem?_lowerDigits_add_ten : ∀ i < 6, lowerDigits[i + 10]? = some (Char.ofNat (97 + i)) := by
  decide

theorem getElem?_upperDigits_add_ten : ∀ i < 6, upperDigits[i + 10]? = some (Char.ofNat (65 + i)) := by
  decide

/-- A character whose code is in a run of listed digits is one of them. -/
theorem getElem?_of_run {listed : List Char} {first count offset : Nat}
    (run : ∀ i < count, listed[i + offset]? = some (Char.ofNat (first + i))) (low : first ≤ c.toNat)
    (high : c.toNat < first + count) : listed[c.toNat - first + offset]? = some c := by
  rw [run (c.toNat - first) (by omega), Nat.add_sub_cancel' low, Char.ofNat_toNat]

theorem isDigit_of_digit?_eq_some (found : digit? base c = some value) : IsDigit base c value := by
  obtain ⟨found, small⟩ := Option.filter_eq_some_iff.mp found
  refine ⟨of_decide_eq_true small, ?_⟩
  split at found
  next range =>
    obtain rfl := Option.some.inj found
    have listed : lowerDigits[c.toNat - 48 + 0]? = some c :=
      getElem?_of_run getElem?_lowerDigits range.1 (Nat.lt_succ_of_le range.2)
    exact .inl listed
  next =>
    split at found
    next range =>
      obtain rfl := Option.some.inj found
      exact .inl (getElem?_of_run getElem?_lowerDigits_add_ten range.1 (Nat.lt_succ_of_le range.2))
    next =>
      split at found
      next range =>
        obtain rfl := Option.some.inj found
        exact .inr (getElem?_of_run getElem?_upperDigits_add_ten range.1 (Nat.lt_succ_of_le range.2))
      next => cases found

theorem digit?_of_listed (listed : lowerDigits[value]? = some c ∨ upperDigits[value]? = some c) :
    digit? 16 c = some value := by
  have lower : ∀ v < 16, lowerDigits[v]?.bind (digit? 16) = some v := by decide
  have upper : ∀ v < 16, upperDigits[v]?.bind (digit? 16) = some v := by decide
  rcases listed with here | here
  · have found := lower value (List.getElem?_eq_some_iff.mp here).1
    rwa [here] at found
  · have found := upper value (List.getElem?_eq_some_iff.mp here).1
    rwa [here] at found

/-- Exactly the digits have a value. -/
theorem digit?_eq_some_iff : digit? base c = some value ↔ IsDigit base c value := by
  refine ⟨isDigit_of_digit?_eq_some, fun ⟨small, listed⟩ => ?_⟩
  have found := (Option.filter_eq_some_iff.mp (digit?_of_listed listed)).1
  exact Option.filter_eq_some_iff.mpr ⟨found, decide_eq_true small⟩

theorem digit?_eq_none_iff : digit? base c = none ↔ ∀ value, ¬ IsDigit base c value := by
  simp only [← digit?_eq_some_iff, Option.eq_none_iff_forall_ne_some, ne_eq]

/-! ### Runs of digits -/

theorem ofDigits_reverse_cons (base d : Nat) (ds : List Nat) :
    Nat.ofDigits base (d :: ds).reverse = d * base ^ ds.length + Nat.ofDigits base ds.reverse := by
  rw [List.reverse_cons, Nat.ofDigits_append, Nat.ofDigits_singleton, List.length_reverse]
  ring

theorem isDigit_unique {other : Nat} (first : IsDigit base c value) (second : IsDigit base c other) : value = other := by
  rw [← digit?_eq_some_iff] at first second
  exact Option.some.inj (first.symm.trans second)

/-- One more digit in front of a run of digits. -/
theorem value_cons {d : Nat} {ds : List Nat} (length : ds.length = text.length) :
    value * base ^ (c :: text).length + Nat.ofDigits base (d :: ds).reverse =
      (base * value + d) * base ^ text.length + Nat.ofDigits base ds.reverse := by
  rw [ofDigits_reverse_cons, length, List.length_cons]
  ring

/-- Digits are read onto the value of those before: each of them moves that value up by one place. -/
theorem digits_eq_ok_iff (positive : 0 < base) (small : value ≤ largest) :
    digits base largest value text = .ok n ↔
      n ≤ largest ∧ ∃ values, List.Forall₂ (IsDigit base) text values ∧
        value * base ^ text.length + Nat.ofDigits base values.reverse = n := by
  induction text generalizing value with
  | nil =>
    simp only [digits, Except.ok.injEq, List.forall₂_nil_left_iff, exists_eq_left, List.length_nil, Nat.pow_zero,
      Nat.mul_one, List.reverse_nil, Nat.ofDigits_nil, Nat.add_zero]
    constructor
    · rintro rfl
      exact ⟨small, rfl⟩
    · exact fun h => h.2
  | cons c rest ih =>
    rw [digits]
    cases found : digit? base c with
    | none =>
      refine ⟨nofun, ?_⟩
      rintro ⟨-, _, run, -⟩
      cases run with
      | cons first _ => exact (digit?_eq_none_iff.mp found _ first).elim
    | some d =>
      have isDigit := digit?_eq_some_iff.mp found
      dsimp only
      split
      next fits =>
        rw [ih fits]
        refine and_congr_right fun _ => ⟨?_, ?_⟩
        · rintro ⟨ds, run, rfl⟩
          exact ⟨d :: ds, .cons isDigit run, value_cons run.length_eq.symm⟩
        · rintro ⟨_, run, rfl⟩
          cases run with
          | cons first run =>
            obtain rfl := isDigit_unique isDigit first
            exact ⟨_, run, (value_cons run.length_eq.symm).symm⟩
      next exceeds =>
        refine ⟨nofun, ?_⟩
        rintro ⟨le, _, run, rfl⟩
        cases run with
        | cons first run =>
          obtain rfl := isDigit_unique isDigit first
          rw [value_cons run.length_eq.symm] at le
          -- What is too large already stays too large.
          have grows : base * value + d ≤ (base * value + d) * base ^ rest.length :=
            Nat.le_mul_of_pos_right _ (Nat.pow_pos positive)
          omega

/-! ### Texts -/

theorem not_isDigit_plus : ¬ IsDigit base '+' value := by
  rintro ⟨-, listed⟩
  have found := digit?_of_listed listed
  cases found

/-- Without a plus sign a numeral is a run of digits. -/
theorem writes_iff_of_head_ne (other : ∀ rest, text ≠ '+' :: rest) :
    Writes base text n ↔
      text ≠ [] ∧ ∃ values, List.Forall₂ (IsDigit base) text values ∧ Nat.ofDigits base values.reverse = n := by
  constructor
  · rintro ⟨sign, digits, values, rfl, rfl | rfl, some, run, value⟩
    · exact ⟨some, values, run, value⟩
    · exact (other digits rfl).elim
  · rintro ⟨some, values, run, value⟩
    exact ⟨[], text, values, rfl, .inl rfl, some, run, value⟩

/-- After a plus sign there is a run of digits. -/
theorem writes_plus_iff :
    Writes base ('+' :: text) n ↔
      text ≠ [] ∧ ∃ values, List.Forall₂ (IsDigit base) text values ∧ Nat.ofDigits base values.reverse = n := by
  constructor
  · rintro ⟨sign, digits, values, eq, rfl | rfl, some, run, value⟩
    · obtain rfl : '+' :: text = digits := eq
      cases run with
      | cons first _ => exact (not_isDigit_plus first).elim
    · obtain rfl : text = digits := List.cons_inj_right _ |>.mp eq
      exact ⟨some, values, run, value⟩
  · rintro ⟨some, values, run, value⟩
    exact ⟨['+'], text, values, rfl, .inr rfl, some, run, value⟩

/-- Exactly the numerals of at most the largest value are numbers, and each is read as its value. -/
theorem parse_eq_ok_iff (positive : 0 < base) :
    parse base largest text = .ok n ↔ n ≤ largest ∧ Writes base text n := by
  have fresh {text : List Char} : digits base largest 0 text = .ok n ↔
      n ≤ largest ∧ ∃ values, List.Forall₂ (IsDigit base) text values ∧ Nat.ofDigits base values.reverse = n := by
    simp only [digits_eq_ok_iff positive (Nat.zero_le largest), Nat.zero_mul, Nat.zero_add]
  unfold parse
  split
  next =>
    rw [writes_iff_of_head_ne fun rest => (List.cons_ne_nil '+' rest).symm]
    exact ⟨nofun, fun h => (h.2.1 rfl).elim⟩
  next =>
    rw [writes_plus_iff]
    exact ⟨nofun, fun h => (h.2.1 rfl).elim⟩
  next rest more =>
    have some : rest ≠ [] := fun none => more (by rw [none])
    rw [writes_plus_iff, fresh, and_iff_right some]
  next some _ other =>
    rw [writes_iff_of_head_ne other, fresh, and_iff_right some]

end Number

end XdpEcho
