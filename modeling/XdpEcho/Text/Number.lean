/-!
# Numbers in text

Unsigned numbers in any base up to sixteen, with a largest value. An optional plus sign may stand in front, and any
number of leading zeros. Reading goes from left to right and stops at the first fault: a character that is no digit,
or a digit that takes the value above the largest.
-/

namespace XdpEcho

/-- Why a text is not a number. -/
inductive NumberError where
  | empty
  | invalidDigit
  | tooLarge
  | tooSmall
  deriving DecidableEq

namespace NumberError

def message : NumberError → String
  | empty => "cannot parse integer from empty string"
  | invalidDigit => "invalid digit found in string"
  | tooLarge => "number too large to fit in target type"
  | tooSmall => "number too small to fit in target type"

end NumberError

namespace Number

/-- The value of a digit in the given base. -/
def digit? (base : Nat) (c : Char) : Option Nat :=
  let value :=
    if '0' ≤ c ∧ c ≤ '9' then some (c.toNat - '0'.toNat)
    else if 'a' ≤ c ∧ c ≤ 'f' then some (c.toNat - 'a'.toNat + 10)
    else if 'A' ≤ c ∧ c ≤ 'F' then some (c.toNat - 'A'.toNat + 10)
    else none
  value.filter (· < base)

/-- Reads digits onto the value of those before. -/
def digits (base largest : Nat) (value : Nat) : List Char → Except NumberError Nat
  | [] => .ok value
  | c :: rest =>
    match digit? base c with
    | none => .error .invalidDigit
    | some d =>
      if base * value + d ≤ largest then digits base largest (base * value + d) rest else .error .tooLarge

def parse (base largest : Nat) : List Char → Except NumberError Nat
  | [] => .error .empty
  | ['+'] => .error .invalidDigit
  | '+' :: rest => digits base largest 0 rest
  | text => digits base largest 0 text

/-- Reads a number from `-(largest + 1)` to `largest`. -/
def parseSigned (base largest : Nat) : List Char → Except NumberError Int
  | ['-'] => .error .invalidDigit
  | '-' :: rest =>
    match digits base (largest + 1) 0 rest with
    | .ok n => .ok (-(n : Int))
    | .error .tooLarge => .error .tooSmall
    | .error e => .error e
  | text => (parse base largest text).map fun n => (n : Int)

end Number

end XdpEcho
