import NamedSql.Decimal.Digits
import NamedSql.Decimal.Shortest

/-!
# `NamedSql.Decimal.Plain` — floating-point values as plain decimals

Values are written with the fewest digits that read back, always in positional notation: never with an
exponent, and without a point when they are whole. Zero keeps its sign.

## Contents
- `positional`: where the point goes.
- `ofBits`: any bit pattern of a format; `single` and `double`.
-/

namespace NamedSql.Decimal

/-- A decimal in positional notation. -/
def positional (d : Scientific) : List Char :=
  let digits := natural d.digits
  if 0 ≤ d.exponent then digits ++ List.replicate d.exponent.toNat '0'
  else
    let places := d.exponent.natAbs
    if places < digits.length then
      digits.take (digits.length - places) ++ '.' :: digits.drop (digits.length - places)
    else '0' :: '.' :: List.replicate (places - digits.length) '0' ++ digits

/-- A bit pattern, its sign apart. -/
def magnitude (f : Format) (bits : Nat) : List Char :=
  if f.exponentField bits = f.specialExponent then ['i', 'n', 'f']
  else
    let x := Binary.ofBits f bits
    if x.mantissa = 0 then ['0'] else positional x.shortest

/-- The text of a bit pattern. -/
def ofBits (f : Format) (bits : Nat) : String :=
  if f.exponentField bits = f.specialExponent ∧ f.fractionField bits ≠ 0 then "NaN"
  else if f.signField bits then String.ofList ('-' :: magnitude f bits)
  else String.ofList (magnitude f bits)

/-- The text of a 32-bit value. -/
def single (x : Float32) : String := ofBits .single x.toBits.toNat

/-- The text of a 64-bit value. -/
def double (x : Float) : String := ofBits .double x.toBits.toNat

end NamedSql.Decimal
