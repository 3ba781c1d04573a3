/-!
# Nearest binary value

A decimal number with a point or an exponent is held as the nearest value of 53 significant bits, as in the
interchange format `binary64`.  Rounding is exact arithmetic on natural numbers; a tie goes to the even
significand.
-/

namespace ProfilingOperator.Decimal

/-- A non-negative value `mantissa * 2 ^ exponent` with at most 53 significant bits. -/
structure Binary where
  /-- The significand. -/
  mantissa : Nat
  /-- The power of two it is scaled by. -/
  exponent : Int
  deriving DecidableEq, Repr

/-- The whole number nearest to a quotient; of two equally near the even one. -/
def roundDiv (num den : Nat) : Nat :=
  let q := num / den
  let r := num % den
  if 2 * r < den then q
  else if den < 2 * r then q + 1
  else if q % 2 = 0 then q else q + 1

/-- The binary order of magnitude of a positive quotient: the greatest `e` with `2 ^ e ≤ num / den`. -/
def magnitude (num den : Nat) : Int :=
  let e : Int := (num.log2 : Int) - den.log2
  if 0 ≤ e then
    if den <<< e.toNat ≤ num then e else e - 1
  else
    if den ≤ num <<< (-e).toNat then e else e - 1

/-- The least exponent of a value. -/
def minExponent : Int := -1074

/-- The value nearest to a quotient, or nothing when it lies beyond the largest one. -/
def Binary.ofQuotient? (num den : Nat) : Option Binary :=
  if num = 0 then some ⟨0, minExponent⟩
  else
    let q := max (magnitude num den - 52) minExponent
    let m := if 0 ≤ q then roundDiv num (den <<< q.toNat) else roundDiv (num <<< (-q).toNat) den
    let v : Binary := if m = 1 <<< 53 then ⟨1 <<< 52, q + 1⟩ else ⟨m, q⟩
    if 971 < v.exponent then none else some v

/-- A value as a quotient of natural numbers. -/
def Binary.quotient (v : Binary) : Nat × Nat :=
  if 0 ≤ v.exponent then (v.mantissa <<< v.exponent.toNat, 1)
  else (v.mantissa, 1 <<< (-v.exponent).toNat)

end ProfilingOperator.Decimal
