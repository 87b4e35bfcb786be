import NamedSql.Text.Split

/-!
# `NamedSql.Url.Path` — paths

A path is a list of segments. Two segments are directions: one means the place where one is, and one the place
above it.

## Contents
- `Segment.isHere`, `Segment.isUp`, `Segment.isDrive`.
- `follow`: the segments of a path without directions. `resolve`: the text of the path.
-/

namespace NamedSql.Url

namespace Segment

/-- A point is written as such or as its byte. -/
def dots : List Char → List Char
  | '%' :: '2' :: c :: s => if c == 'e' || c == 'E' then '.' :: dots s else '%' :: '2' :: dots (c :: s)
  | c :: s               => c :: dots s
  | []                   => []

/-- Whether a segment means the place where one is. -/
def isHere (s : List Char) : Bool := dots s == ['.']

/-- Whether a segment means the place above. -/
def isUp (s : List Char) : Bool := dots s == ['.', '.']

/-- Whether a segment is the letter of a drive, above which there is nothing. -/
def isDrive : List Char → Bool
  | [c, d] => c.isAlpha && (d == ':' || d == '|')
  | _      => false

end Segment

/-- Goes up, unless there is nothing above. The segments are those passed so far, the last one first. -/
def goUp : List (List Char) → List (List Char)
  | []        => []
  | s :: rest => if Segment.isDrive s then s :: rest else rest

/-- Follows segments from a place, given by the segments passed so far, the last one first. A direction at the end
    leads to a place without a name. -/
def follow (passed : List (List Char)) : List (List Char) → List (List Char)
  | []      => passed.reverse
  | s :: ss =>
    let here := if ss = [] then [[]] else []
    if Segment.isUp s then follow (here ++ goUp passed) ss
    else if Segment.isHere s then follow (here ++ passed) ss
    else follow (s :: passed) ss

/-- The text of a path from its root, given what is written behind the first slash. -/
def resolve (isSlash : Char → Bool) (s : List Char) : List Char :=
  (follow [] (splitEvery isSlash s)).flatMap ('/' :: ·)

end NamedSql.Url
