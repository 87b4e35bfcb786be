/-!
# `NamedSql.Decimal.Binary` — binary floating point, exactly

Finite floating-point values as exact numbers `mantissa · 2 ^ exponent`, and the test whether a decimal
reads back to one. Both common widths are instances of one `Format`.

## Contents
- `Format`, `Format.single`, `Format.double`, and the fields of a bit pattern.
- `Binary`, `Binary.ofBits`.
- `Scientific`, `Binary.readsBack`.
-/

namespace NamedSql.Decimal

/-- A binary interchange format, by the width of its two fields. -/
structure Format where
  fractionBits : Nat
  exponentBits : Nat

namespace Format

/-- The 32-bit format. -/
def single : Format := ⟨23, 8⟩

/-- The 64-bit format. -/
def double : Format := ⟨52, 11⟩

/-- The exponent of the last place of the smallest values. -/
def leastExponent (f : Format) : Int := 2 - Nat.pow 2 (f.exponentBits - 1) - f.fractionBits

/-- The exponent field of the values that are not finite. -/
def specialExponent (f : Format) : Nat := Nat.pow 2 f.exponentBits - 1

/-- The fraction field of a bit pattern. -/
def fractionField (f : Format) (bits : Nat) : Nat := bits % Nat.pow 2 f.fractionBits

/-- The exponent field of a bit pattern. -/
def exponentField (f : Format) (bits : Nat) : Nat :=
  bits / Nat.pow 2 f.fractionBits % Nat.pow 2 f.exponentBits

/-- Whether a bit pattern has its sign set. -/
def signField (f : Format) (bits : Nat) : Bool :=
  bits / Nat.pow 2 (f.fractionBits + f.exponentBits) % 2 == 1

/-- The pattern of positive infinity, which is next after that of the greatest finite value. -/
def infinityBits (f : Format) : Nat := f.specialExponent * Nat.pow 2 f.fractionBits

end Format

/-- A finite value without its sign, `mantissa · 2 ^ exponent`. -/
structure Binary where
  mantissa : Nat
  exponent : Int
  /-- Whether the next lower value is only half as far away as the next higher one. -/
  narrowBelow : Bool

/-- The value of a finite bit pattern, without its sign. -/
def Binary.ofBits (f : Format) (bits : Nat) : Binary :=
  let fraction := f.fractionField bits
  let exponent := f.exponentField bits
  if exponent = 0 then ⟨fraction, f.leastExponent, false⟩
  else ⟨Nat.pow 2 f.fractionBits + fraction, f.leastExponent + (exponent - 1 : Nat),
    fraction == 0 && exponent > 1⟩

/-- The number `digits · 10 ^ exponent`. -/
structure Scientific where
  digits   : Nat
  exponent : Int
deriving DecidableEq, Repr

/-- Compares `a · 10 ^ i` with `b · 2 ^ j`. -/
def compareScaled (a : Nat) (i : Int) (b : Nat) (j : Int) : Ordering :=
  compare (a * Nat.pow 10 i.toNat * Nat.pow 2 (-j).toNat) (b * Nat.pow 2 j.toNat * Nat.pow 10 (-i).toNat)

/-- Whether a decimal reads back to the value: it lies between the midpoints to the two neighbours, or on
    one of them when the mantissa is even. -/
def Binary.readsBack (x : Binary) (d : Scientific) : Bool :=
  let low  := if x.narrowBelow then 4 * x.mantissa - 1 else 4 * x.mantissa - 2
  let high := 4 * x.mantissa + 2
  let ends := x.mantissa % 2 == 0
  let toLow  := compareScaled d.digits d.exponent low (x.exponent - 2)
  let toHigh := compareScaled d.digits d.exponent high (x.exponent - 2)
  (toLow == .gt || (ends && toLow == .eq)) && (toHigh == .lt || (ends && toHigh == .eq))

end NamedSql.Decimal
