import NamedSql.Decimal.Plain
import NamedSql.Value.Basic

/-!
# `NamedSql.Value.Display` — the text of a value

## Contents
- `Value.display`: how a value reads in diagnostics, and as a string.
-/

namespace NamedSql.Value

/-- The text of a value. -/
def display : Value → String
  | null type   => "null (" ++ type.name ++ ")"
  | text s      => s
  | smallInt n  => String.ofList (Decimal.integer n.toInt)
  | int n       => String.ofList (Decimal.integer n.toInt)
  | bigInt n    => String.ofList (Decimal.integer n.toInt)
  | float x     => Decimal.single x
  | double x    => Decimal.double x
  | bool b      => if b then "true" else "false"
  | date d      => d.display
  | time t      => t.display
  | timestamp t => t.display

end NamedSql.Value
