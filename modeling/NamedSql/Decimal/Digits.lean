/-!
# `NamedSql.Decimal.Digits` — numbers written in decimal digits

## Contents
- `natural`, `integer`: the plain decimal texts.
- `padded`: zeros on the left up to a width.
- `value`: the number a run of digits stands for.
-/

namespace NamedSql.Decimal

/-- The decimal digits of a natural number, without leading zeros. -/
def natural (n : Nat) : List Char := Nat.toDigits 10 n

/-- The decimal digits of an integer, after a minus sign if it is negative. -/
def integer (n : Int) : List Char :=
  if n < 0 then '-' :: natural n.natAbs else natural n.natAbs

/-- The digits of a natural number, with zeros on the left up to `width` characters. -/
def padded (width n : Nat) : List Char :=
  List.replicate (width - (natural n).length) '0' ++ natural n

/-- The number that a run of decimal digits stands for. -/
def value (digits : List Char) : Nat :=
  digits.foldl (fun n c => 10 * n + (c.toNat - '0'.toNat)) 0

end NamedSql.Decimal
