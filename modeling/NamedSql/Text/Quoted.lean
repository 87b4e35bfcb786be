import NamedSql.Text.Unprintable

/-!
# `NamedSql.Text.Quoted` — strings in quotes

Diagnostics write a string between double quotes, with escapes for the quote, the backslash, five control
characters, and every character that would not show as itself.

## Contents
- `Quoted.char`, `Quoted.string`, and `Quoted.list` for a bracketed list of strings.
-/

namespace NamedSql.Quoted

/-- The number of a character in lowercase hexadecimal, without padding. -/
def hex (c : Char) : String := String.ofList (Nat.toDigits 16 c.toNat)

/-- A character as it stands between double quotes. -/
def char (c : Char) : String :=
  match c with
  | '"'  => "\\\""
  | '\\' => "\\\\"
  | '\n' => "\\n"
  | '\r' => "\\r"
  | '\t' => "\\t"
  | '\x00' => "\\0"
  | c    => if isUnprintable c then "\\u\x7b" ++ hex c ++ "\x7d" else c.toString

/-- A string between double quotes. -/
def string (s : String) : String := "\"" ++ String.join (s.toList.map char) ++ "\""

/-- A bracketed list of quoted strings. -/
def list (ss : List String) : String := "[" ++ ", ".intercalate (ss.map string) ++ "]"

end NamedSql.Quoted
