import ProfilingOperator.Decimal.Nearest

/-!
# Shortest decimal

The decimal that stands for a binary value in text: of the decimals that round to the value, those with the
fewest digits, of these the nearest to it, of two equally near the one whose last digit is even.

A decimal is read in three roundings: its digits, the power of ten, and their product or quotient.
-/

namespace ProfilingOperator

/-- A decimal number `± digits * 10 ^ exponent`. -/
structure Decimal where
  /-- Whether the sign is minus. -/
  negative : Bool
  /-- The digits, as one number. -/
  digits : Nat
  /-- The power of ten they are scaled by. -/
  exponent : Int
  deriving DecidableEq, Repr

namespace Decimal

/-! ## Algorithm -/

/-- The reals that round to a value, in units of a quarter of its last place: lower end, upper end, and
whether the ends belong. -/
def roundingRange (v : Binary) : Nat × Nat × Bool :=
  (if v.mantissa = 1 <<< 52 ∧ minExponent < v.exponent then 4 * v.mantissa - 1 else 4 * v.mantissa - 2,
    4 * v.mantissa + 2, v.mantissa % 2 = 0)

/-- The whole multiple of `10 ^ k` that rounds to `v` and is nearest to it, if one rounds to it. -/
def onGrid? (v : Binary) (k : Int) : Option Nat :=
  let quarter := v.exponent - 2
  let scaleUp := (if 0 ≤ quarter then 1 <<< quarter.toNat else 1) * (if 0 ≤ k then 1 else Nat.pow 10 (-k).toNat)
  let grid := (if 0 ≤ quarter then 1 else 1 <<< (-quarter).toNat) * (if 0 ≤ k then Nat.pow 10 k.toNat else 1)
  let (lo, hi, closed) := roundingRange v
  let x := 4 * v.mantissa * scaleUp
  let inside := fun (n : Nat) =>
    if closed then lo * scaleUp ≤ n * grid ∧ n * grid ≤ hi * scaleUp
    else lo * scaleUp < n * grid ∧ n * grid < hi * scaleUp
  let below := x / grid
  let above := below + 1
  if inside below then
    if inside above then
      let down := x - below * grid
      let up := above * grid - x
      if down < up then some below
      else if up < down then some above
      else if below % 2 = 0 then some below else some above
    else some below
  else if inside above then some above
  else none

/-- The first grid, from `10 ^ k` down over `n` powers of ten, that has a number rounding to `v`. -/
def firstGrid (v : Binary) : Nat → Int → Nat × Int
  | 0, k => (v.mantissa, k)
  | n + 1, k =>
    match onGrid? v k with
    | some d => (d, k)
    | none => firstGrid v n (k - 1)

/-- The shortest decimal of a value. -/
def shortest (negative : Bool) (v : Binary) : Decimal :=
  if v.mantissa = 0 then ⟨negative, 0, 0⟩
  else
    let (d, k) := firstGrid v 660 309
    ⟨negative, d, k⟩

/-- The power of ten as a value; there is none beyond `10 ^ 308`. -/
def powerOfTen? (n : Nat) : Option Binary :=
  Binary.ofQuotient? (Nat.pow 10 n) 1

/-- Multiplies a value by a power of ten, in one rounding. -/
def timesPower? (v p : Binary) : Option Binary :=
  let (a, b) := v.quotient
  let (c, d) := p.quotient
  Binary.ofQuotient? (a * c) (b * d)

/-- Divides a value by a power of ten, in one rounding. -/
def overPower? (v p : Binary) : Option Binary :=
  let (a, b) := v.quotient
  let (c, d) := p.quotient
  Binary.ofQuotient? (a * d) (b * c)

/-- Divides a value by a power of ten, at most `10 ^ 308` at a time. -/
def scaleDown? : Nat → Binary → Nat → Option Binary
  | 0, v, _ => some v
  | fuel + 1, v, n =>
    if v.mantissa = 0 then some v
    else if n ≤ 308 then (powerOfTen? n).bind (overPower? v)
    else ((powerOfTen? 308).bind (overPower? v)).bind fun w => scaleDown? fuel w (n - 308)

/-- The value of `digits * 10 ^ exponent`, or nothing when it is out of range. -/
def value? (digits : Nat) (exponent : Int) : Option Binary :=
  (Binary.ofQuotient? digits 1).bind fun v =>
    if v.mantissa = 0 then some v
    else if 308 < exponent then none
    else if 0 ≤ exponent then (powerOfTen? exponent.toNat).bind (timesPower? v)
    else scaleDown? 4 v (-exponent).toNat

/-- A decimal as it is held: the shortest one of its value. -/
def read? (negative : Bool) (digits : Nat) (exponent : Int) : Option Decimal :=
  (value? digits exponent).map (shortest negative)

end Decimal

end ProfilingOperator
