/-!
Binary64 numbers.

A binary64 number is stored as its 64 bits: a sign, an 11-bit biased exponent
and a 52-bit fraction. This module reads the bits back into sign, integer
mantissa and power of two, and rounds an exact non-negative rational to the
nearest binary64 number, ties to an even mantissa, overflowing to infinity.
All arithmetic is exact, on natural numbers.
-/

namespace LaunchBench.Decimal

/-- A binary64 number, as its bits. -/
structure Binary64 where
  bits : Nat
  deriving DecidableEq, Repr, Inhabited

/-- What the bits of a binary64 number stand for. -/
inductive Decoded where
  /-- `(-1)^negative × mantissa × 2^exponent`; `lowerHalf` says the gap to the next
  smaller number is half the gap to the next larger one. -/
  | finite (negative : Bool) (mantissa : Nat) (exponent : Int) (lowerHalf : Bool)
  | infinite (negative : Bool)
  | nan
  deriving DecidableEq, Repr

namespace Binary64

/-- Positive infinity. -/
def infinity : Binary64 := ⟨0x7FF0000000000000⟩

/-- Reads the bits. -/
def decode (x : Binary64) : Decoded :=
  let neg : Bool := x.bits / Nat.pow 2 63 % 2 = 1
  let e : Nat := x.bits / Nat.pow 2 52 % Nat.pow 2 11
  let m : Nat := x.bits % Nat.pow 2 52
  if e = 2047 then (if m = 0 then .infinite neg else .nan)
  else if e = 0 then .finite neg m (-1074) false
  else .finite neg (m + Nat.pow 2 52) ((e : Int) - 1075) (m = 0 && e > 1)

/-- The quotient `num / den` rounded to an integer, ties to even. -/
def roundHalfEven (num den : Nat) : Nat :=
  let q := num / den
  let r := num % den
  if 2 * r < den then q
  else if 2 * r > den then q + 1
  else if q % 2 = 0 then q else q + 1

/-- `num / den` scaled by `2^(-q)`, as a numerator and denominator. -/
def scaled (num den : Nat) (q : Int) : Nat × Nat :=
  if q < 0 then (num * Nat.pow 2 q.natAbs, den) else (num, den * Nat.pow 2 q.natAbs)

/-- The nearest binary64 number to the non-negative rational `num / den` (`den > 0`),
ties to an even mantissa. -/
def ofRatio (num den : Nat) : Binary64 :=
  if num = 0 || den = 0 then ⟨0⟩
  else
    -- an exponent `q` with `2^52 ≤ num / den / 2^q < 2^54`
    let q0 : Int := (Nat.log2 num : Int) - (Nat.log2 den : Int) - 52
    let q := if (let (a, b) := scaled num den q0; a / b < Nat.pow 2 52) then q0 - 1 else q0
    if q < -1074 then
      -- below the normal range: the mantissa counts units of 2^-1074
      let (a, b) := scaled num den (-1074)
      ⟨roundHalfEven a b⟩
    else
      let (a, b) := scaled num den q
      let q := if a / b ≥ Nat.pow 2 53 then q + 1 else q
      let (a, b) := scaled num den q
      let m := roundHalfEven a b
      let (m, q) := if m = Nat.pow 2 53 then (Nat.pow 2 52, q + 1) else (m, q)
      let e := q + 1075
      if e ≥ 2047 then infinity
      else ⟨e.toNat * Nat.pow 2 52 + (m - Nat.pow 2 52)⟩

/-- The nearest binary64 number to a decimal `digits / 10^places`. -/
def ofDecimal (digits places : Nat) : Binary64 :=
  ofRatio digits (Nat.pow 10 places)

/-- The nearest binary64 number to `digits × 10^exp10`. A value whose first digit
stands beyond the largest finite number is infinity, and one wholly below half the
smallest is zero, without computing the huge powers. -/
def ofScientific (digits : Nat) (exp10 : Int) : Binary64 :=
  let size : Int := (Nat.toDigits 10 digits).length
  if digits = 0 then ⟨0⟩
  else if exp10 + size > 310 then infinity
  else if exp10 + size < -330 then ⟨0⟩
  else if exp10 ≥ 0 then ofRatio (digits * Nat.pow 10 exp10.toNat) 1
  else ofRatio digits (Nat.pow 10 exp10.natAbs)

/-- The number with its sign bit flipped. -/
def negate (x : Binary64) : Binary64 :=
  ⟨(x.bits + Nat.pow 2 63) % Nat.pow 2 64⟩

/-- The quiet not-a-number with a clear sign bit. -/
def nan : Binary64 := ⟨0x7FF8000000000000⟩

/-- The value times `k`, rounded to binary64 as a product of binary64 numbers is. -/
def scale (x : Binary64) (k : Nat) : Binary64 :=
  match x.decode with
  | .finite false m q _ =>
    if q < 0 then ofRatio (m * k) (Nat.pow 2 q.natAbs) else ofRatio (m * k * Nat.pow 2 q.natAbs) 1
  | _ => x

/-- The exact value of a non-negative finite number, as a numerator and a
power-of-two denominator. -/
def ratio (x : Binary64) : Nat × Nat :=
  match x.decode with
  | .finite _ m q _ => if q < 0 then (m, Nat.pow 2 q.natAbs) else (m * Nat.pow 2 q.toNat, 1)
  | _ => (0, 1)

/-- The sum of two non-negative finite numbers, rounded to binary64. -/
def add (x y : Binary64) : Binary64 :=
  let (a, b) := x.ratio
  let (c, d) := y.ratio
  ofRatio (a * d + c * b) (b * d)

/-- A non-negative finite number divided by a positive whole number, rounded to
binary64. -/
def divNat (x : Binary64) (k : Nat) : Binary64 :=
  let (a, b) := x.ratio
  ofRatio a (b * k)

/-- Whether one non-negative finite number is below another. -/
def lt (x y : Binary64) : Bool :=
  x.ratio.1 * y.ratio.2 < y.ratio.1 * x.ratio.2

end Binary64

end LaunchBench.Decimal
