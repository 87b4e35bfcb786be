import NamedSql.Domain.Name
import NamedSql.Url.Address
import NamedSql.Url.Path
import NamedSql.Url.Percent

/-!
# `NamedSql.Url.Basic` — URLs

A URL has a scheme, and behind it an authority, which says where to go, a path and a query. In the schemes of the
web and of files a host is a name of the domain name system or an address; in all others it is any text.

## Contents
- `Fault`, `Fault.message`: what can be wrong with a URL.
- `Family`: schemes by what their URLs look like.
- `checkHost`, `readService`, `Authority`, `Authority.read`.
- `Url`, `Url.read`.
-/

namespace NamedSql

namespace Url

/-- What is wrong with a URL. -/
inductive Fault where
  /-- There is no scheme. -/
  | relative
  | emptyHost
  /-- A name that the domain name system does not have. -/
  | domainName
  /-- A character that is in no host. -/
  | domainCharacter
  | ipv4
  | ipv6
  /-- A number of a service that is none. -/
  | service
deriving DecidableEq, Repr

/-- How a fault reads. -/
def Fault.message : Fault → String
  | .relative        => "relative URL without a base"
  | .emptyHost       => "empty host"
  | .domainName      => "invalid international domain name"
  | .domainCharacter => "invalid domain character"
  | .ipv4            => "invalid IPv4 address"
  | .ipv6            => "invalid IPv6 address"
  | .service         => "invalid port number"

/-! ## Schemes -/

/-- Schemes by what their URLs look like. -/
inductive Family where
  /-- Files. -/
  | file
  /-- Schemes of the web, whose URLs always have a host. -/
  | web
  /-- All others. -/
  | plain
deriving DecidableEq, Repr

/-- The family of a scheme in lower case. -/
def Family.ofScheme (scheme : List Char) : Family :=
  match String.ofList scheme with
  | "file" => .file
  | "http" | "https" | "ws" | "wss" | "ftp" => .web
  | _ => .plain

/-- A backslash is as good as a slash, except in plain schemes. -/
def Family.isSlash (f : Family) (c : Char) : Bool := c == '/' || (f != .plain && c == '\\')

/-- A query or a fragment ends what is before it. -/
def endsPath (c : Char) : Bool := c == '?' || c == '#'

/-- Whether a character may be in a scheme behind its first letter. -/
def isSchemeChar (c : Char) : Bool := c.isAlphanum || c == '+' || c == '-' || c == '.'

/-- The scheme of a URL in lower case, and what follows its colon. -/
def scheme? (s : List Char) : Option (List Char × List Char) :=
  match breakBefore (!isSchemeChar ·) s with
  | (c :: scheme, ':' :: rest) => if c.isAlpha then some ((c :: scheme).map Char.toLower, rest) else none
  | _                          => none

/-! ## Hosts -/

/-- Characters that are in no host. -/
def isForbiddenInHost (c : Char) : Bool := "\x00\t\n\r #/:<>?@[\\]^|".toList.contains c

/-- Checks a name of the domain name system, or an address of four numbers. -/
def checkDomain (s : List Char) : Except Fault Unit :=
  match Domain.read? (octets s) with
  | none      => .error .domainName
  | some name =>
    if name = [] then .error .emptyHost
    else if endsInNumber name ∧ !isIpv4 name then .error .ipv4
    else .ok ()

/-- Checks a host. -/
def checkHost (f : Family) (host : List Char) : Except Fault Unit :=
  match host with
  | '[' :: s => if s.getLast? = some ']' ∧ isIpv6 s.dropLast then .ok () else .error .ipv6
  | []       => if f = .web then .error .emptyHost else .ok ()
  | _        =>
    if f ≠ .plain then checkDomain host
    else if host.any isForbiddenInHost then .error .domainCharacter
    else .ok ()

/-- The greatest number of a service. -/
def lastService : Nat := 65535

/-- Reads what follows a host: nothing, or a colon and the number of a service, which may be missing. -/
def readService : List Char → Except Fault (Option Nat)
  | [] | [_]    => .ok none
  | _ :: digits =>
    match Numeral.natural? digits with
    | some n => if n ≤ lastService then .ok (some n) else .error .service
    | none   => .error .service

/-- Splits a host from what follows it; a colon between brackets belongs to the host. -/
def splitHost (inBrackets : Bool) : List Char → List Char × List Char
  | []     => ([], [])
  | c :: s =>
    if c = ':' ∧ inBrackets = false then ([], c :: s)
    else
      let (host, rest) := splitHost (if c == '[' then true else if c == ']' then false else inBrackets) s
      (c :: host, rest)

/-! ## Authorities -/

/-- What stands between two slashes and the path, as it is written. -/
structure Authority where
  username : List Char
  password : List Char
  host     : List Char
  service  : Option Nat

/-- No user and no host. -/
def Authority.empty : Authority := ⟨[], [], [], none⟩

/-- The user in front of the last at sign, if there is one, and what follows it. -/
def splitUser (s : List Char) : Option (List Char) × List Char :=
  match cut (· == '@') s.reverse with
  | (place, some user) => (some user.reverse, place.reverse)
  | (place, none)      => (none, place.reverse)

/-- Reads an authority, and answers what follows it too. A user or a service needs a host, and so does an at
    sign that is not the end of the URL. In a plain scheme a backslash ends the number of a service. -/
def Authority.read (f : Family) (s : List Char) : Except Fault (Authority × List Char) := do
  let (text, after) := breakBefore (fun c => f.isSlash c || endsPath c) s
  let (user, place) := splitUser text
  let (username, password) := cut (· == ':') (user.getD [])
  let (host, service) := splitHost false place
  if user = some [] ∧ place = [] ∧ after ≠ [] then throw .emptyHost
  checkHost f host
  if host = [] ∧ (service ≠ [] ∨ username ≠ [] ∨ password.getD [] ≠ []) then throw .emptyHost
  let (service, more) := breakBefore (· == '\\') service
  return (⟨username, password.getD [], host, ← readService service⟩, more ++ after)

end Url

/-! ## URLs -/

/-- A URL in its parts. Names, passwords, hosts and queries are as they are written, and a path is so but for
    directions. -/
structure Url where
  scheme    : List Char
  authority : Url.Authority
  path      : List Char
  query     : List Char

namespace Url

/-- Reads the path of a URL, and the query behind it. What is behind a number sign is passed over. -/
def finish (scheme : List Char) (authority : Authority) (path : List Char → List Char) (s : List Char) : Url :=
  let (text, query) := cut (· == '?') (cut (· == '#') s).1
  ⟨scheme, authority, path text, query.getD []⟩

/-- The path behind an authority. Only in plain schemes it may be missing. -/
def pathBehind (f : Family) (s : List Char) : List Char :=
  match s with
  | []     => if f = .plain then [] else ['/']
  | c :: t => resolve f.isSlash (if f.isSlash c then t else s)

/-- Reads a URL with an authority. -/
def readPlaced (f : Family) (scheme s : List Char) : Except Fault Url := do
  let (authority, rest) ← Authority.read f s
  return finish scheme authority (pathBehind f) rest

/-- Reads a URL of a plain scheme. Without a slash the path is a text that is left as it is. -/
def readPlain (scheme : List Char) : List Char → Except Fault Url
  | '/' :: '/' :: s => readPlaced .plain scheme s
  | '/' :: s        => .ok (finish scheme .empty (pathBehind .plain) ('/' :: s))
  | s               => .ok (finish scheme .empty id s)

/-- Reads the URL of a file. Two slashes announce a host, which may be missing; the letter of a drive is none. -/
def readFile (scheme : List Char) (s : List Char) : Except Fault Url :=
  match s with
  | a :: b :: t =>
    if Family.file.isSlash a && Family.file.isSlash b then do
      let (host, rest) := breakBefore (fun c => Family.file.isSlash c || endsPath c) t
      if Segment.isDrive host then return finish scheme .empty (pathBehind .file) t
      checkHost .file host
      return finish scheme { Authority.empty with host := host } (pathBehind .file) rest
    else .ok (finish scheme .empty (pathBehind .file) s)
  | _ => .ok (finish scheme .empty (pathBehind .file) s)

/-- Controls and blanks, which do not count at either end of a URL. -/
def isMargin (c : Char) : Bool := c ≤ ' '

/-- The ends of lines and tabs, which do not count anywhere in a URL. -/
def isIgnored (c : Char) : Bool := c == '\t' || c == '\n' || c == '\r'

/-- What counts in the text of a URL. -/
def essence (s : List Char) : List Char :=
  ((s.dropWhile isMargin).reverse.dropWhile isMargin).reverse.filter (!isIgnored ·)

/-- Reads a URL. In the schemes of the web it does not matter how many slashes there are before the host. -/
def read (s : List Char) : Except Fault Url :=
  match scheme? (essence s) with
  | none                => .error .relative
  | some (scheme, rest) =>
    match Family.ofScheme scheme with
    | .file  => readFile scheme rest
    | .web   => readPlaced .web scheme (rest.dropWhile (Family.isSlash .web))
    | .plain => readPlain scheme rest

end Url

end NamedSql
