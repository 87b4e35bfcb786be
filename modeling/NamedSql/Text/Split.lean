/-!
# `NamedSql.Text.Split` — cutting texts

## Contents
- `breakBefore`: a text before and from the first of some characters on.
- `cut`: the same without that character.
- `splitEvery`: a text cut at each of some characters.
-/

namespace NamedSql

/-- Splits a text at the first of the characters that satisfy `p`; that character begins the second part. -/
def breakBefore (p : Char → Bool) (s : List Char) : List Char × List Char :=
  (s.takeWhile (!p ·), s.dropWhile (!p ·))

/-- Splits a text at the first of the characters that satisfy `p`, which belongs to neither part. Without
    such a character there is no second part. -/
def cut (p : Char → Bool) (s : List Char) : List Char × Option (List Char) :=
  match breakBefore p s with
  | (first, [])        => (first, none)
  | (first, _ :: rest) => (first, some rest)

/-- Splits a text at each of the characters that satisfy `p`, which belong to no part. -/
def splitEvery (p : Char → Bool) : List Char → List (List Char)
  | []     => [[]]
  | c :: s =>
    match splitEvery p s with
    | []           => [[c]]
    | part :: rest => if p c then [] :: part :: rest else (c :: part) :: rest

end NamedSql
