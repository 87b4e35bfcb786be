import NamedSql.Decimal.Binary

/-!
# `NamedSql.Decimal.Nearest` — the floating-point value nearest to a number

## Contents
- `roundDiv`: a quotient rounded to the nearest whole number, ties to even.
- `nearestBits`: the bit pattern nearest to a positive fraction; beyond the greatest finite value lies
  infinity.
- `Scientific.nearest`: the same for a decimal, whose exponent may be of any size.
-/

namespace NamedSql.Decimal

/-- The whole number nearest to `num / den`; of two, the even one. -/
def roundDiv (num den : Nat) : Nat :=
  let q := num / den
  match compare (2 * (num % den)) den with
  | .lt => q
  | .gt => q + 1
  | .eq => if q % 2 = 0 then q else q + 1

/-- The exponent of the last place kept for `num / den`: the quotient then has as many binary digits as the
    format holds, or it is among the smallest values. -/
def lastPlace (f : Format) (num den : Nat) : Int :=
  let fits (q : Int) : Bool :=
    num * Nat.pow 2 (-q).toNat < den * Nat.pow 2 q.toNat * Nat.pow 2 (f.fractionBits + 1)
  let low := (num.log2 : Int) - den.log2 - 1 - f.fractionBits
  max f.leastExponent (if fits low then low else low + 1)

/-- The bit pattern of the value nearest to the positive fraction `num / den`; of two equally near, the one
    with an even mantissa. A mantissa that rounds up to the next power of two carries into the exponent. -/
def nearestBits (f : Format) (num den : Nat) : Nat :=
  let q := lastPlace f num den
  let m := roundDiv (num * Nat.pow 2 (-q).toNat) (den * Nat.pow 2 q.toNat)
  min (m + (q - f.leastExponent).toNat * Nat.pow 2 f.fractionBits) f.infinityBits

/-- The bit pattern nearest to a decimal with `length` digits. Decimals that are far out of the format's
    range are settled without computing their powers. -/
def Scientific.nearest (f : Format) (length : Nat) (d : Scientific) : Nat :=
  let magnitude := d.exponent + length
  let bound : Int := Nat.pow 2 f.exponentBits
  if d.digits = 0 ∨ magnitude < -bound then 0
  else if bound < d.exponent then f.infinityBits
  else nearestBits f (d.digits * Nat.pow 10 d.exponent.toNat) (Nat.pow 10 (-d.exponent).toNat)

end NamedSql.Decimal
