import NamedSql.Text.Hex
import NamedSql.Text.Split
import NamedSql.Text.Utf8

/-!
# `NamedSql.Url.Percent` — bytes in the text of a URL

A percent sign with two hexadecimal digits stands for a byte. Every other character stands for its own bytes,
also a percent sign that no two digits follow.

## Contents
- `octets`: the bytes that a text stands for.
- `readText`: the text that these bytes make up. `pairs`: the options of a query.
-/

namespace NamedSql.Url

/-- The bytes that a text stands for. -/
def octets : List Char → List UInt8
  | '%' :: a :: b :: s =>
    match hexDigit? a, hexDigit? b with
    | some m, some n => UInt8.ofNat (16 * m + n) :: octets s
    | _,      _      => String.utf8EncodeChar '%' ++ octets (a :: b :: s)
  | c :: s => String.utf8EncodeChar c ++ octets s
  | []     => []

/-- The text that the bytes make up. -/
def readText (s : List Char) : Except Utf8.Defect (List Char) := Utf8.decode (octets s)

/-- A name or a value in a query: a plus sign is a blank, and what is no text is replaced. -/
def readField (s : List Char) : List Char :=
  Utf8.decodeLossy (octets (s.map fun c => if c == '+' then ' ' else c))

/-- The options of a query, in their order; empty ones are passed over. -/
def pairs (query : List Char) : List (List Char × List Char) :=
  ((splitEvery (· == '&') query).filter (· ≠ [])).map fun option =>
    let (key, value) := cut (· == '=') option
    (readField key, readField (value.getD []))

end NamedSql.Url
