import NamedSql.Error

/-!
# `NamedSql.MySql.Fault` — what a MySQL driver has to report

## Contents
- `ServerError`: what the server itself says.
- `Fault`, and `Fault.report`, its message and causes.
-/

namespace NamedSql.MySql

/-- An error that the server answers. -/
structure ServerError where
  code    : Nat
  state   : Option String
  message : String
deriving DecidableEq, Repr

/-- The code, the state if there is one, and the message. -/
def ServerError.text (e : ServerError) : String :=
  toString e.code ++ e.state.elim "" (" (" ++ · ++ ")") ++ ": " ++ e.message

/-- What a MySQL driver reports. -/
inductive Fault where
  | connectionClosed
  | poolClosed
  /-- The server counts `count` parameters, and another one was to be bound. -/
  | noParameter (slot count : Nat)
  /-- The statement was run while a parameter had no value. -/
  | unbound (slot : Nat)
  | server (e : ServerError)
  /-- The options of a connector are wrong. -/
  | configuration (why : Report)
  /-- The server could not be talked to. -/
  | unreachable (why : String)
  /-- Anything else that the client library tells. -/
  | told (report : Report)

/-- A message that ends with that of its only cause. -/
def Report.because (start why : String) : Report := ⟨start ++ why, [why]⟩

/-- The message of a fault and those of its causes. -/
def Fault.report : Fault → Report
  | .connectionClosed        => ⟨"connection is closed", []⟩
  | .poolClosed              => ⟨"attempted to acquire a connection on a closed pool", []⟩
  | .noParameter slot count  => ⟨"parameter " ++ toString slot ++ " is outside 1..=" ++ toString count, []⟩
  | .unbound slot            => ⟨"parameter " ++ toString slot ++ " is not bound", []⟩
  | .server e                => Report.because "error returned from database: " e.text
  | .configuration why       => ⟨"error with configuration: " ++ why.message, why.message :: why.causes⟩
  | .unreachable why         => Report.because "error communicating with database: " why
  | .told report             => report

/-- A fault as a failure of a driver call. -/
def Fault.failure (f : Fault) : Failure := .reported f.report

/-- A fault in setting a connector up. -/
def Fault.error (f : Fault) : Error := .database f.report

end NamedSql.MySql
