/-!
# `NamedSql.Text.Hex` — digits of several bases

## Contents
- `hexDigit?`: the value of a hexadecimal digit.
- `numberIn?`: the number that digits of a base stand for; `hexNumber` for base 16.
-/

namespace NamedSql

/-- The value of a hexadecimal digit, in either case. -/
def hexDigit? (c : Char) : Option Nat :=
  if c.isDigit then some (c.toNat - '0'.toNat)
  else if 'a' ≤ c ∧ c ≤ 'f' then some (c.toNat - 'a'.toNat + 10)
  else if 'A' ≤ c ∧ c ≤ 'F' then some (c.toNat - 'A'.toNat + 10)
  else none

/-- The number that digits stand for in a base of at most 16; no digits are zero. -/
def numberIn? (base : Nat) (s : List Char) : Option Nat :=
  s.foldlM (fun n c => (hexDigit? c).bind fun d => if d < base then some (base * n + d) else none) 0

/-- The number that hexadecimal digits stand for, in texts that are known to hold nothing else. -/
def hexNumber (s : List Char) : Nat := (numberIn? 16 s).getD 0

end NamedSql
