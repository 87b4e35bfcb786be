import NamedSql.Text.CombiningClass
import NamedSql.Text.Composite

/-!
# `NamedSql.Text.Composed` — the composed form of a text

Equivalent texts have one composed form: composites are taken apart, marks are put in the order of their
classes, and what can be composed is.

## Contents
- `takenApart`, `ordered`, `recomposed`: the three steps.
- `composed`: the composed form, for texts without characters that stand for a single other one. `isComposed`.
-/

namespace NamedSql

/-- Composites hold composites to no greater depth than this. -/
def compositeDepth : Nat := 4

/-- The characters that a character stands for in the end. -/
def takenApart : Nat → Char → List Char
  | 0,         c => [c]
  | depth + 1, c =>
    match parts? c with
    | some (first, second) => takenApart depth first ++ [second]
    | none                 => [c]

/-- Puts a character before others, and behind the marks that are to stand before it. -/
def insertMark (c : Char) : List Char → List Char
  | []     => [c]
  | d :: s =>
    if 0 < combiningClass d ∧ combiningClass d < combiningClass c then d :: insertMark c s else c :: d :: s

/-- Puts marks that follow each other in the order of their classes; those of one class keep theirs. -/
def ordered : List Char → List Char
  | []     => []
  | c :: s => insertMark c (ordered s)

/-- Composes what can be composed: `start` begins something new, and `kept` are the marks behind it that stay,
    the last one first. A mark is composed with the start unless one of its class or a higher one is between. -/
def composeFrom (start : Char) (kept : List Char) : List Char → List Char
  | []     => start :: kept.reverse
  | c :: s =>
    let reaches := kept.head?.all fun d => combiningClass d < combiningClass c
    match if reaches then compose? start c else none with
    | some whole => composeFrom whole kept s
    | none       =>
      if combiningClass c = 0 then start :: (kept.reverse ++ composeFrom c [] s)
      else composeFrom start (c :: kept) s

/-- Composes a text whose marks are in order. -/
def recomposed : List Char → List Char
  | []     => []
  | c :: s => composeFrom c [] s

/-- The composed form of a text. -/
def composed (s : List Char) : List Char := recomposed (ordered (s.flatMap (takenApart compositeDepth)))

/-- Whether a text is in its composed form. -/
def isComposed (s : List Char) : Bool := composed s == s

end NamedSql
