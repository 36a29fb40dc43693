/-!
# Decimal fractions with fixed places

A floating-point number is `m * 2 ^ q` for whole numbers `m` and `q`, and is written with a given number of decimal
places by rounding that exact value. A tie goes to the even neighbour.
-/

namespace XdpEcho

namespace Decimal

/-- The whole number nearest to `n / d`; of two equally near ones the even one. -/
def roundDiv (n d : Nat) : Nat :=
  if 2 * (n % d) < d then n / d
  else if d < 2 * (n % d) then n / d + 1
  else n / d + n / d % 2

/-- Fills a text up with spaces in front to the given width. -/
def padLeft (width : Nat) (text : String) : String :=
  "".pushn ' ' (width - text.length) ++ text

/-- The text of `n / 10 ^ places`. -/
def pointed (places n : Nat) : String :=
  if places = 0 then toString n
  else
    let whole := Nat.pow 10 places
    let fraction := toString (n % whole)
    toString (n / whole) ++ "." ++ "".pushn '0' (places - fraction.length) ++ fraction

/-- The text of `m * 2 ^ q / 2 ^ 1074`, rounded to the given places. -/
def scaled (places m q : Nat) : String :=
  pointed places (roundDiv (m * Nat.pow 2 q * Nat.pow 10 places) (Nat.pow 2 1074))

/-- A floating-point number with the given number of decimal places. -/
def fixed (places : Nat) (x : Float) : String :=
  let bits := x.toBits.toNat
  let unit := Nat.pow 2 52
  let sign := if bits / Nat.pow 2 63 = 1 then "-" else ""
  let exponent := bits / unit % 2048
  let fraction := bits % unit
  if exponent = 2047 then
    if fraction = 0 then sign ++ "inf" else "NaN"
  else if exponent = 0 then sign ++ scaled places fraction 0
  else sign ++ scaled places (unit + fraction) (exponent - 1)

end Decimal

end XdpEcho
