import NamedSql.Text.Hex
import NamedSql.Text.Split

/-!
# `NamedSql.Text.Ranges` — sets of characters, by ranges of their numbers

## Contents
- `Ranges`, `Ranges.ofLines`: how tables are written.
- `Ranges.contains`.
-/

namespace NamedSql

/-- The parts of a text between single blanks. -/
def wordsOf (line : String) : List (List Char) := splitEvery (· == ' ') line.toList

/-- Ranges of numbers of characters, ends included, in ascending order. -/
structure Ranges where
  bounds : List (Nat × Nat)

namespace Ranges

/-- The range that a word stands for: a hexadecimal number, or two with a hyphen between them. -/
def boundsOf (word : List Char) : Nat × Nat :=
  let (first, last) := cut (· == '-') word
  (hexNumber first, hexNumber (last.getD first))

/-- Reads ranges from lines of words. -/
def ofLines (lines : List String) : Ranges := ⟨lines.flatMap fun line => (wordsOf line).map boundsOf⟩

/-- Looks a number up among ascending ranges. -/
def covers (n : Nat) : List (Nat × Nat) → Bool
  | []                    => false
  | (first, last) :: rest => first ≤ n && (n ≤ last || covers n rest)

/-- Whether the number of a character is in one of the ranges. -/
def contains (r : Ranges) (c : Char) : Bool := covers c.toNat r.bounds

end Ranges

end NamedSql
