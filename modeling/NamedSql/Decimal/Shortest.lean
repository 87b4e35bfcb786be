import NamedSql.Decimal.Binary

/-!
# `NamedSql.Decimal.Shortest` — the shortest decimal that reads back

Among the decimals that read back to a floating-point value, the one with the fewest digits; of several, the
nearest to the value; of two equally near, the greater.

## Contents
- `Binary.leadingExponent`: the place of the first digit.
- `Binary.nearestOn`: the better of the value's two neighbours on a decimal grid.
- `Binary.shortest`: the first grid, from coarse to fine, that has one.
-/

namespace NamedSql.Decimal

/-- The quotient of a value by `10 ^ k`, as a fraction. -/
def Binary.overPower (x : Binary) (k : Int) : Nat × Nat :=
  (x.mantissa * Nat.pow 2 x.exponent.toNat * Nat.pow 10 (-k).toNat,
    Nat.pow 2 (-x.exponent).toNat * Nat.pow 10 k.toNat)

/-- The greatest `k` with `10 ^ k` not above the value. The estimate from the binary logarithm is off by at
    most one. -/
def Binary.leadingExponent (x : Binary) : Int :=
  let estimate := ((x.mantissa.log2 : Int) + x.exponent) * 1233 / 4096
  let isAtLeast (k : Int) : Bool := compareScaled 1 k x.mantissa x.exponent != .gt
  if isAtLeast (estimate + 1) then estimate + 1
  else if isAtLeast estimate then estimate
  else estimate - 1

/-- The nearer of the value's two neighbours on the grid of multiples of `10 ^ k`, among those that read
    back; the upper one if both are equally near. -/
def Binary.nearestOn (x : Binary) (k : Int) : Option Scientific :=
  let (num, den) := x.overPower k
  let below : Scientific := ⟨num / den, k⟩
  let above : Scientific := ⟨num / den + 1, k⟩
  match x.readsBack below, x.readsBack above with
  | true,  true  => some (if 2 * (num % den) < den then below else above)
  | true,  false => some below
  | false, true  => some above
  | false, false => none

/-- A decimal without the zeros at the end of its digits. -/
def Scientific.stripped : Nat → Scientific → Scientific
  | 0,        d => d
  | fuel + 1, d =>
    if d.digits % 10 = 0 then Scientific.stripped fuel ⟨d.digits / 10, d.exponent + 1⟩ else d

/-- More digits than this are never needed to tell a value from its neighbours. -/
def enoughDigits : Nat := 17

/-- The shortest decimal that reads back to a positive value. -/
def Binary.shortest (x : Binary) : Scientific :=
  let lead := x.leadingExponent
  let found := (List.range enoughDigits).findSome? fun (n : Nat) => x.nearestOn (lead - n)
  let exact : Scientific :=
    ⟨x.mantissa * Nat.pow 2 x.exponent.toNat * Nat.pow 5 (-x.exponent).toNat, min x.exponent 0⟩
  (found.getD exact).stripped enoughDigits

end NamedSql.Decimal
