import NamedSql.Text.Hex
import NamedSql.Text.Numeral
import NamedSql.Text.Split

/-!
# `NamedSql.Url.Address` — numerical addresses of hosts

## Contents
- `isIpv6`: addresses of eight groups of digits.
- `endsInNumber`, `isIpv4`: addresses of up to four numbers.
-/

namespace NamedSql.Url

/-! ## Eight groups -/

/-- Whether a text is a number from 0 to 255 without leading zeros. -/
def isByte (s : List Char) : Bool :=
  s.length ≤ 3 && (Numeral.natural? s).any (· ≤ 255) && (s.head? != some '0' || s.length == 1)

/-- Whether a text is four bytes with points between them. -/
def isDotted (s : List Char) : Bool :=
  let bytes := splitEvery (· == '.') s
  bytes.length == 4 && bytes.all isByte

/-- Whether a text is a group: one to four hexadecimal digits. -/
def isGroup (s : List Char) : Bool := s != [] && s.length ≤ 4 && s.all fun c => (hexDigit? c).isSome

/-- How many groups some parts make up: each is one, but at the end of an address four bytes with points are two. -/
def groups? (atEnd : Bool) : List (List Char) → Option Nat
  | []      => some 0
  | [s]     => if isGroup s then some 1 else if atEnd && isDotted s then some 2 else none
  | s :: ss => if isGroup s then (groups? atEnd ss).map (· + 1) else none

/-- Splits a text at its first double colon. -/
def cutDoubleColon : List Char → Option (List Char × List Char)
  | ':' :: ':' :: s => some ([], s)
  | c :: s          => (cutDoubleColon s).map fun (a, b) => (c :: a, b)
  | []              => none

/-- The parts between the colons of a text; an empty text has none. -/
def colonParts (s : List Char) : List (List Char) := if s = [] then [] else splitEvery (· == ':') s

/-- Whether a text is an address of eight groups; a double colon stands for one or more groups of zero. -/
def isIpv6 (s : List Char) : Bool :=
  match cutDoubleColon s with
  | none                 => groups? true (colonParts s) == some 8
  | some (start, ending) =>
    match groups? false (colonParts start), groups? true (colonParts ending) with
    | some m, some n => m + n ≤ 7
    | _,      _      => false

/-! ## Four numbers -/

/-- A number in the base that its beginning tells: `0x` is 16, another `0` before more is 8, otherwise it is 10. -/
def number? : List Char → Option Nat
  | []              => none
  | '0' :: 'x' :: s => numberIn? 16 s
  | '0' :: 'X' :: s => numberIn? 16 s
  | '0' :: c :: s   => numberIn? 8 (c :: s)
  | s               => numberIn? 10 s

/-- The parts between the points of a name; a point at the end has none behind it. -/
def pointParts (s : List Char) : List (List Char) :=
  let parts := splitEvery (· == '.') s
  if parts.getLast? = some [] then parts.dropLast else parts

/-- Whether a name ends in a number, and so has to be an address. -/
def endsInNumber (s : List Char) : Bool :=
  match (pointParts s).getLast? with
  | some last => (last != [] && last.all Char.isDigit) || (number? last).isSome
  | none      => false

/-- Whether a text is an address of up to four numbers: each is a byte, and the last one fills what is left of
    32 bits. -/
def isIpv4 (s : List Char) : Bool :=
  match (pointParts s).mapM number? with
  | none         => false
  | some numbers =>
    numbers.length ≤ 4 && numbers.dropLast.all (· ≤ 255)
      && numbers.getLast?.any (· < Nat.pow 256 (5 - numbers.length))

end NamedSql.Url
