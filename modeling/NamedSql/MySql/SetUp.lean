import NamedSql.MySql.Driver
import NamedSql.MySql.Location

/-!
# `NamedSql.MySql.SetUp` — setting up a connector

A connector is set up once, before any statement. Its location is checked, and then the server is logged in
to, which shows whether the server can be reached at all.

## Contents
- `Login`: how the first contact goes.
- `setUp`, and `setUpFrom` for a location that has to be looked up first.
-/

namespace NamedSql.MySql

variable {τ : Type}

/-- How the first contact with a server goes. -/
inductive Login where
  | accepted
  /-- The server refuses. -/
  | refused (e : ServerError)
  /-- There is no way to the server. -/
  | unreachable (why : String)

/-- The fault that a login ends with. -/
def Login.result : Login → Except Fault Unit
  | accepted        => .ok ()
  | refused e       => .error (.server e)
  | unreachable why => .error (.unreachable why)

/-- Sets up a connector for a server. -/
def setUp (name url : String) (login : Login) (server : Server τ) : Except Error (Connector (driver τ)) :=
  match checkUrl url, login.result with
  | .error f, _         => .error f.error
  | .ok (),   .error f  => .error f.error
  | .ok (),   .ok ()    => .ok (connector name server)

/-- Sets up a connector for the location that an environment variable names, if it is there. -/
def setUpFrom (name : String) (url? : Option String) (login : Login) (server : Server τ) :
    Except Error (Connector (driver τ)) :=
  match url? with
  | none     => .error (.connect (.saying "environment variable not found"))
  | some url => setUp name url login server

end NamedSql.MySql
