import NamedSql.MySql.Fault
import NamedSql.Text.Numeral
import NamedSql.Text.Quoted
import NamedSql.Url.Basic

/-!
# `NamedSql.MySql.Location` — where a server is

A server is named by a URL: a host, with an optional user, the name of a database as the path, and options as
the query. Before anything is sent the URL is checked.

## Contents
- `checkText`: user, password and database have to be texts.
- `checkCount`, `checkEncryption`, `checkOption`: what options have to be.
- `checkUrl`: the first thing that is wrong with a URL.
-/

namespace NamedSql.MySql

namespace Location

/-- A reason that has no other behind it. -/
def because (why : String) : Except Report Unit := .error ⟨why, []⟩

/-- Checks that a part of a URL stands for a text. -/
def checkText (s : List Char) : Except Report Unit :=
  match Url.readText s with
  | .ok _         => .ok ()
  | .error defect => because defect.message

/-- The first number that does not fit into 64 bits. -/
def countLimit : Nat := 0x10000000000000000

/-- Checks a count: an optional plus sign and digits, of no more than 64 bits. Digits that are too many are noticed
    before what follows them. -/
def checkCount (s : List Char) : Except Report Unit :=
  let text := match s with
    | '+' :: d => d
    | _        => s
  let digits := text.takeWhile Char.isDigit
  if s = [] then because "cannot parse integer from empty string"
  else if countLimit ≤ Decimal.value digits then because "number too large to fit in target type"
  else if text = [] ∨ digits ≠ text then because "invalid digit found in string"
  else .ok ()

/-- How the encryption of a connection can be chosen. -/
def encryptionModes : List String := ["disabled", "preferred", "required", "verify_ca", "verify_identity"]

/-- Checks the choice of an encryption mode. A bad one is itself a fault in a configuration. -/
def checkEncryption (s : List Char) : Except Report Unit :=
  if encryptionModes.contains (String.ofList (s.map Char.toLower)) then .ok ()
  else
    .error (Fault.configuration
      ⟨"unknown value " ++ Quoted.string (String.ofList s) ++ " for `ssl_mode`", []⟩).report

/-- Checks an option. Options that are not known are left alone. -/
def checkOption (key value : List Char) : Except Report Unit :=
  match String.ofList key with
  | "statement-cache-capacity" => checkCount value
  | "sslmode" | "ssl-mode"     => checkEncryption value
  | _                          => .ok ()

/-- Checks a location: user, password and database, then the options in their order. -/
def check (u : Url) : Except Report Unit := do
  checkText u.authority.username
  checkText u.authority.password
  checkText (u.path.dropWhile (· == '/'))
  (Url.pairs u.query).forM fun (key, value) => checkOption key value

end Location

/-- Checks a URL. -/
def checkUrl (url : String) : Except Fault Unit :=
  match Url.read url.toList with
  | .error fault => .error (.configuration ⟨fault.message, []⟩)
  | .ok u        => (Location.check u).mapError .configuration

end NamedSql.MySql
