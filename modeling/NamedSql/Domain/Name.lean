import NamedSql.Domain.Direction
import NamedSql.Domain.Joiner
import NamedSql.Domain.Mapping
import NamedSql.Domain.Punycode
import NamedSql.Text.Composed
import NamedSql.Text.Mark
import NamedSql.Text.Utf8

/-!
# `NamedSql.Domain.Name` — names of hosts

A name is a list of labels with points between them. It may be written in any script; a label that begins with
`xn--` stands for one in another script.

## Contents
- `isForbidden`: ASCII characters that no name has.
- `label?`: a label as it is meant. `readText?`, `read?`: a whole name, in lower case and composed form.
-/

namespace NamedSql.Domain

/-- ASCII characters that no name has: controls, the blank, and what separates the parts of an address. -/
def isForbidden (c : Char) : Bool := c ≤ ' ' || c == '\x7f' || "%#/:<>?@[\\]^|".toList.contains c

/-- Whether a character is one of ASCII. -/
def isAscii (c : Char) : Bool := c.toNat < 128

/-- Longer labels in ASCII are not decoded. -/
def longestCode : Nat := 2000

/-- Longer labels in other scripts are refused. -/
def longestLabel : Nat := 1000

/-- Whether the characters of a label may stand together: it does not begin with a mark, and its joiners fit. -/
def isWellFormed (label : List Char) : Bool :=
  !label.head?.any isMark && (label.all isAscii || label.length ≤ longestLabel) && joinersFit label

/-- Whether a label that was written in ASCII is one that needed to be: every character stands for itself, and
    it is in composed form. -/
def isGenuine (label : List Char) : Bool :=
  label.all (fun c => isPlain c && !isForbidden c && c != '.') && isComposed label

/-- What a label after `xn--` stands for. -/
def encoded? (code : List Char) : Option (List Char) :=
  if code.all isAscii ∧ code.getLast?.any (· != '-') ∧ code.length ≤ longestCode then
    (Punycode.decode? code).filter isGenuine
  else none

/-- A label as it is meant. -/
def label? (s : List Char) : Option (List Char) :=
  let label := match s with
    | 'x' :: 'n' :: '-' :: '-' :: code => encoded? code
    | _                                => some s
  label.filter isWellFormed

/-- Puts points between labels. -/
def joinLabels (labels : List (List Char)) : List Char := ['.'].intercalate labels

/-- A name as it is meant. -/
def readText? (s : List Char) : Option (List Char) := do
  let text := composed (← s.mapM mapped?).flatten
  if text.any isForbidden then failure
  let labels ← (splitEvery (· == '.') text).mapM label?
  if (labels.any fun l => l.any fun c => (direction c).turns) && !labels.all isOrderly then failure
  return joinLabels labels

/-- The name that bytes stand for. -/
def read? (bytes : List UInt8) : Option (List Char) := (Utf8.decode bytes).toOption.bind readText?

end NamedSql.Domain
