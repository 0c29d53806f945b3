import LaunchBench.Decimal.Binary64
/-!
Shortest decimal text of a binary64 number.

A finite number is written with the fewest significant digits that read back
as the same number: the digits name a point of the interval of reals that
round to it (its ends included when the mantissa is even). Among such points
with the fewest digits, the one nearest the number is taken, and of two
equally near the one with an even last digit. The digits are written in
positional notation, never with an exponent, and without a fractional part
when there is none. Infinity is written `inf`, and not-a-number `NaN`.
-/

namespace LaunchBench.Decimal

/-- A decimal `c × 10^s`. -/
structure Scaled where
  coeff : Nat
  exp : Int
  deriving DecidableEq, Repr

/-- Compares `c × 10^s` with `x × 2^(q - 2)`: the two sides as natural numbers. -/
def sides (c : Nat) (s : Int) (x : Nat) (q : Int) : Nat × Nat :=
  let t : Int := 2 - q
  (c * Nat.pow 10 s.toNat * Nat.pow 2 t.toNat, x * Nat.pow 10 (-s).toNat * Nat.pow 2 (-t).toNat)

/-- `⌊(x × 2^(q - 2)) / 10^s⌋`. -/
def floorDiv (x : Nat) (q : Int) (s : Int) : Nat :=
  let t : Int := 2 - q
  (x * Nat.pow 10 (-s).toNat * Nat.pow 2 (-t).toNat) / (Nat.pow 10 s.toNat * Nat.pow 2 t.toNat)

/-- The largest `e` with `10^e ≤ x × 2^(q - 2)`, for `x > 0`. -/
def decimalExponent (x : Nat) (q : Int) : Int :=
  let est : Int := ((Nat.log2 x : Int) + q - 2) * 30103 / 100000
  let le (e : Int) : Bool := let (a, b) := sides 1 e x q; a ≤ b
  let rec up : Nat → Int → Int
    | 0, e => e
    | n + 1, e => if le (e + 1) then up n (e + 1) else e
  let rec down : Nat → Int → Int
    | 0, e => e
    | n + 1, e => if le e then e else down n (e - 1)
  up 8 (down 8 est)

/-- Drops trailing zeros of the coefficient. -/
def Scaled.trim (d : Scaled) : Scaled :=
  let rec go : Nat → Nat → Int → Scaled
    | 0, c, s => ⟨c, s⟩
    | n + 1, c, s => if c ≠ 0 && c % 10 = 0 then go n (c / 10) (s + 1) else ⟨c, s⟩
  go 20 d.coeff d.exp

/-- The shortest decimal inside the rounding interval of `m × 2^q`. -/
def shortestOf (m : Nat) (q : Int) (lowerHalf : Bool) : Scaled :=
  let v := 4 * m
  let lo := if lowerHalf then 4 * m - 1 else 4 * m - 2
  let hi := 4 * m + 2
  let inclusive := m % 2 = 0
  let e := decimalExponent v q
  let inside (c : Nat) (s : Int) : Bool :=
    let (a, b) := sides c s lo q
    let (a', b') := sides c s hi q
    (if inclusive then b ≤ a else b < a) && (if inclusive then a' ≤ b' else a' < b')
  let pick (k : Nat) : Option Scaled :=
    let s := e - k + 1
    let c := floorDiv v q s
    let downOk := inside c s
    let upOk := inside (c + 1) s
    if downOk && upOk then
      -- the nearer of the two; a tie goes to the even coefficient
      let (a, b) := sides c s v q
      let (a', b') := sides (c + 1) s v q
      let dDown := b - a
      let dUp := a' - b'
      if dDown < dUp then some ⟨c, s⟩
      else if dUp < dDown then some ⟨c + 1, s⟩
      else if c % 2 = 0 then some ⟨c, s⟩ else some ⟨c + 1, s⟩
    else if downOk then some ⟨c, s⟩
    else if upOk then some ⟨c + 1, s⟩
    else none
  ((List.range 17).findSome? fun i => pick (i + 1)).getD ⟨m, 0⟩ |>.trim

/-- Writes `c × 10^s` in positional notation. -/
def Scaled.positional (d : Scaled) : String :=
  let ds := toString d.coeff
  let len : Int := ds.length
  if d.exp ≥ 0 then ds ++ String.ofList (List.replicate d.exp.toNat '0')
  else if len + d.exp > 0 then
    let cut := (len + d.exp).toNat
    String.ofList (ds.toList.take cut) ++ "." ++ String.ofList (ds.toList.drop cut)
  else "0." ++ String.ofList (List.replicate (-d.exp - len).toNat '0') ++ ds

/-- The shortest decimal text of a binary64 number. -/
def Binary64.display (x : Binary64) : String :=
  match x.decode with
  | .nan => "NaN"
  | .infinite neg => if neg then "-inf" else "inf"
  | .finite neg m q lowerHalf =>
    let sign := if neg then "-" else ""
    if m = 0 then sign ++ "0" else sign ++ (shortestOf m q lowerHalf).positional

end LaunchBench.Decimal
