import NamedSql.Text.Split

/-!
# `NamedSql.Domain.Punycode` — labels written in ASCII

A label of any characters is written in ASCII: first its ASCII characters, and after a hyphen the others, each
by the distance from the one before in a list of all pairs of a character and a place. A distance is written in
digits whose weights adapt to what has been read.

## Contents
- `threshold`, `adapt`: the weights.
- `distance?`: one distance; it uses up some of the text (`length_of_distance`).
- `decode?`: the characters of a label.
-/

namespace NamedSql.Domain.Punycode

/-- Numbers are held in 32 bits, and a text that needs more is refused. -/
def limit : Nat := 0x100000000

/-- The value of a digit: letters, in either case, and then the ten figures. -/
def digit? (c : Char) : Option Nat :=
  if 'a' ≤ c ∧ c ≤ 'z' then some (c.toNat - 'a'.toNat)
  else if 'A' ≤ c ∧ c ≤ 'Z' then some (c.toNat - 'A'.toNat)
  else if c.isDigit then some (c.toNat - '0'.toNat + 26)
  else none

/-- Digits below the threshold of their place end a number. -/
def threshold (bias place : Nat) : Nat := min 26 (max 1 (place - bias))

/-- Divides a distance until it is small, counting the places. -/
def shrink (distance places : Nat) : Nat × Nat :=
  if 455 < distance then shrink (distance / 35) (places + 36) else (distance, places)
termination_by distance
decreasing_by omega

/-- The bias after a distance has been read; the first one counts for less. -/
def adapt (distance count : Nat) (isFirst : Bool) : Nat :=
  let d := if isFirst then distance / 700 else distance / 2
  let (small, places) := shrink (d + d / count) 0
  places + 36 * small / (small + 38)

/-- Reads digits and adds what they stand for to `sum`. -/
def distance? (bias weight place sum : Nat) : List Char → Option (Nat × List Char)
  | []     => none
  | c :: s =>
    match digit? c with
    | none   => none
    | some d =>
      let sum' := sum + d * weight
      let t := threshold bias place
      let weight' := weight * (36 - t)
      if limit ≤ sum' then none
      else if d < t then some (sum', s)
      else if limit ≤ weight' then none
      else distance? bias weight' (place + 36) sum' s

theorem length_of_distance {bias weight place sum n : Nat} {s rest : List Char}
    (h : distance? bias weight place sum s = some (n, rest)) : rest.length < s.length := by
  induction s generalizing weight place sum with
  | nil => simp [distance?] at h
  | cons c s ih =>
    simp only [distance?] at h
    split at h
    · simp at h
    · split at h
      · simp at h
      · split at h
        · simp only [Option.some.injEq, Prod.mk.injEq] at h
          simp [← h.2]
        · split at h
          · simp at h
          · have := ih h
            simp
            omega

/-- Reads distances and puts characters in their places. `code` and `place` are where the last one stands in the
    list of pairs. -/
def insertFrom (code bias place : Nat) (label : List Char) (s : List Char) : Option (List Char) :=
  if s = [] then some label
  else
    match _h : distance? bias 1 36 place s with
    | none           => none
    | some (n, rest) =>
      let count := label.length + 1
      let code' := code + n / count
      if code'.isValidChar then
        insertFrom code' (adapt (n - place) count (place == 0)) (n % count + 1)
          (label.insertIdx (n % count) (Char.ofNat code')) rest
      else none
termination_by s.length
decreasing_by exact length_of_distance _h

/-- Splits a text at its last hyphen. Without one, or with nothing before it, there is no first part. -/
def parts (s : List Char) : List Char × List Char :=
  match cut (· == '-') s.reverse with
  | (ending, some (c :: start)) => ((c :: start).reverse, ending.reverse)
  | _                           => ([], s)

/-- The characters of a label, if it is well written. -/
def decode? (s : List Char) : Option (List Char) :=
  let (ascii, others) := parts s
  insertFrom 128 72 0 ascii others

end NamedSql.Domain.Punycode
