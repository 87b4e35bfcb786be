import NamedSql.Decimal.Digits
import NamedSql.Decimal.Nearest
import NamedSql.Text.Split

/-!
# `NamedSql.Text.Numeral` — numbers in text

Two grammars over a text without blanks around it: whole numbers, and floating-point numbers. A sign is
optional in both, and at least one digit is required.

## Contents
- `Numeral.signed`: splits off a sign.
- `Numeral.integer?`: a sign and digits.
- `Numeral.double?`: digits with an optional point and an optional exponent, or one of the three words.
-/

namespace NamedSql.Numeral

/-- Splits off a leading sign; the flag says whether it is a minus. -/
def signed : List Char → Bool × List Char
  | '-' :: rest => (true, rest)
  | '+' :: rest => (false, rest)
  | s           => (false, s)

/-- The natural number written by a non-empty run of digits. -/
def natural? (s : List Char) : Option Nat :=
  if s ≠ [] ∧ s.all Char.isDigit then some (Decimal.value s) else none

/-- A number with the sign that was read before it. -/
def withSign (negative : Bool) (n : Nat) : Int := if negative then -n else n

/-- The whole number written by an optional sign and a non-empty run of digits. -/
def integer? (s : List Char) : Option Int :=
  let (negative, digits) := signed s
  (natural? digits).map (withSign negative)

/-- The significand: digits, and after an optional point more digits, at least one in all. The result is a
    decimal with as many digits as were written, and their number. -/
def significand? (s : List Char) : Option (Nat × Decimal.Scientific) :=
  let (whole, fraction) := cut (· == '.') s
  let places := fraction.getD []
  (natural? (whole ++ places)).map fun n =>
    ((whole ++ places).length, ⟨n, -(places.length : Int)⟩)

/-- The exponent after its mark; without a mark it is zero. -/
def exponent? : Option (List Char) → Option Int
  | none   => some 0
  | some s => integer? s

/-- The magnitude of a floating-point number, as the bits of the nearest value. -/
def magnitude? (s : List Char) : Option Nat :=
  let word := s.map Char.toLower
  if word = ['i', 'n', 'f'] ∨ word = ['i', 'n', 'f', 'i', 'n', 'i', 't', 'y'] then
    some Decimal.Format.double.infinityBits
  else if word = ['n', 'a', 'n'] then
    some (Decimal.Format.double.infinityBits + 0x8000000000000)
  else do
    let (number, mark) := cut (fun c => c == 'e' || c == 'E') s
    let (length, d) ← significand? number
    let e ← exponent? mark
    return Decimal.Scientific.nearest .double length { d with exponent := d.exponent + e }

/-- The 64-bit value written by a text, correctly rounded. -/
def double? (s : List Char) : Option Float :=
  let (negative, rest) := signed s
  (magnitude? rest).map fun bits =>
    Float.ofBits (UInt64.ofNat (if negative then bits + 0x8000000000000000 else bits))

end NamedSql.Numeral
