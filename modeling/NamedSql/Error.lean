import NamedSql.Value.Display

/-!
# `NamedSql.Error` — what can go wrong, and how it reads

Two types of error know each other. A `Failure` is what a driver call, a conversion or a row mapper
reports; an `Error` is what a statement or a handle answers, often because of a failure. A failure may in
turn be an error that surfaced inside an operation.

## Contents
- `Resource`: what a handle closes.
- `Report`: a message with the messages of its causes, as drivers give it.
- `Failure`, `Error`, and for both `message` and `causes`, the outermost cause first.
- `Halt`: an operation that runs a row mapper either fails or is abandoned by the mapper.
-/

namespace NamedSql

/-- The things a handle owns and closes. -/
inductive Resource where
  | cursor | statement | connection
deriving DecidableEq, Repr

/-- How a resource is called in messages. -/
def Resource.name : Resource → String
  | .cursor     => "result cursor"
  | .statement  => "prepared statement"
  | .connection => "connection"

/-- What a driver has to say: a message, and the messages of its causes. -/
structure Report where
  message : String
  causes  : List String
deriving DecidableEq, Repr

mutual

/-- A failure inside an operation. -/
inductive Failure where
  /-- The driver's own words. -/
  | reported (report : Report)
  /-- A closed cursor was asked for something. -/
  | cursorClosed
  /-- A cursor was read before its first row or after its last one. -/
  | offRow
  /-- The current row has no such column. -/
  | noColumn (column : Nat)
  /-- A value of another kind, or a text that does not denote a value of the type. -/
  | mismatch (value : Value) (target : SqlType)
  /-- A whole number that the type does not hold. -/
  | outOfRange (n : Int) (target : SqlType)
  /-- A statement with `count` slots was asked to bind another one. -/
  | noSlot (slot count : Nat)
  /-- An error of the library that arose in the course of an operation. -/
  | error (e : Error)

/-- An error of the library. -/
inductive Error where
  /-- No connector has the name, or there is none at all. -/
  | noConnector (name : Option String)
  /-- The connector could not hand out a connection. -/
  | connect (source : Failure)
  /-- The driver refused the statement. -/
  | prepare (statement : String) (source : Failure)
  /-- A value could not be bound. -/
  | bind (name value : String) (source : Failure)
  /-- Running the statement, or mapping its rows, failed. -/
  | execute (statement : String) (source : Failure)
  /-- A key was required and the database generated none. -/
  | noGeneratedKey (statement : String)
  /-- A resource could not be closed. -/
  | release (resource : Resource) (source : Failure)
  /-- The statement's resources are released already. -/
  | statementClosed
  /-- The database could not be reached or set up. -/
  | database (report : Report)

end

/-- How the target of a conversion is called in messages. -/
def SqlType.targetName : SqlType → String
  | .varchar   => "string"
  | .smallInt  => "i16"
  | .integer   => "i32"
  | .bigInt    => "i64"
  | .float     => "f32"
  | .double    => "f64"
  | .boolean   => "bool"
  | .date      => "date"
  | .time      => "time"
  | .timestamp => "timestamp"

mutual

/-- The message of a failure. -/
def Failure.message : Failure → String
  | .reported report       => report.message
  | .cursorClosed          => "cursor is closed"
  | .offRow                => "cursor is not positioned on a row"
  | .noColumn column       => "column " ++ toString column ++ " is out of range"
  | .mismatch value target =>
    "cannot convert " ++ value.sqlType.name ++ " value '" ++ value.display ++ "' to " ++ target.targetName
  | .outOfRange n target   => String.ofList (Decimal.integer n) ++ " is out of range for " ++ target.targetName
  | .noSlot slot count     => "index " ++ toString slot ++ " is outside 1..=" ++ toString count
  | .error e               => e.message

/-- The message of an error. -/
def Error.message : Error → String
  | .noConnector none         => "No connector registered"
  | .noConnector (some name)  => "No connector registered under '" ++ name ++ "'"
  | .connect source           => "Error occurred while creating connection to datasource: " ++ source.message
  | .prepare statement _      => "Error preparing statement: " ++ statement
  | .bind name value _        => "Error setting " ++ name ++ " to " ++ value
  | .execute statement _      => "Error executing: " ++ statement
  | .noGeneratedKey statement => "No key was generated for: " ++ statement
  | .release resource _       => "Error closing " ++ resource.name
  | .statementClosed          => "Statement has already been closed"
  | .database report          => "Database error: " ++ report.message

end

mutual

/-- The messages of what caused a failure, outermost first. -/
def Failure.causes : Failure → List String
  | .reported report => report.causes
  | .error e         => e.causes
  | _                => []

/-- The messages of what caused an error, outermost first. -/
def Error.causes : Error → List String
  | .connect source | .prepare _ source | .bind _ _ source | .execute _ source | .release _ source =>
    source.message :: source.causes
  | .database report => report.message :: report.causes
  | .noConnector _ | .noGeneratedKey _ | .statementClosed => []

end

/-- A failure that is told in one message. -/
def Failure.saying (message : String) : Failure := .reported ⟨message, []⟩

/-- Why an operation that maps rows did not finish. -/
inductive Halt (ε : Type) where
  /-- It failed. -/
  | failed (e : ε)
  /-- The row mapper gave the whole operation up, with a last word. -/
  | abandoned (text : String)

/-- Rewords the failure; an abandoned operation stays abandoned. -/
def Halt.map {ε ε' : Type} (f : ε → ε') : Halt ε → Halt ε'
  | failed e       => failed (f e)
  | abandoned text => abandoned text

end NamedSql
