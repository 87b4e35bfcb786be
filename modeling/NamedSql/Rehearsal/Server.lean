import NamedSql.MySql.SetUp
import NamedSql.Rehearsal.Wire
import NamedSql.Rehearsal.World

/-!
# `NamedSql.Rehearsal.Server` — scripted MySQL servers

A scripted server answers the statements it runs from a list, one after the other, and the journal tells
which statements it ran with which parameters.

## Contents
- `ServerScript`, and `Backstage`: the world of a rehearsal with the answers that are still to be given.
- `server`: the far side that a script describes.
-/

namespace NamedSql.Rehearsal

open MySql (Argument Reply Response Server ServerError)

/-- What a scripted server does. -/
structure ServerScript where
  /-- Tells servers apart. -/
  number        : Nat
  /-- What the journal calls the server. -/
  tag           : String
  /-- Whether the pool is closed. -/
  closedPool    : Bool
  /-- The statements that the server refuses to prepare. -/
  prepareErrors : List (String × ServerError)
  /-- The number of parameters of every statement; otherwise the question marks are counted. -/
  parameters    : Option Nat

/-- A rehearsal with servers: for each of them, the answers that are still to be given. -/
structure Backstage where
  world   : World
  answers : List (Nat × List (Except ServerError Reply))

namespace Backstage

/-- The answers of a server. -/
def answersOf (number : Nat) (b : Backstage) : List (Except ServerError Reply) :=
  (b.answers.lookup number).getD []

/-- Puts the answers of a server in place of those it had. -/
def withAnswers (number : Nat) (rest : List (Except ServerError Reply)) (b : Backstage) : Backstage :=
  { b with answers := (number, rest) :: b.answers.filter (·.1 != number) }

/-- Runs a statement with what it was sent: the journal tells of it, and the next answer is given. When none is left
    nothing is affected. -/
def run (s : ServerScript) (sql : String) (sent : List Value) : Attempt Backstage MySql.Fault Response :=
  .of fun b =>
    let b' : Backstage := { b with world := b.world.record (.executed s.tag sql sent) }
    match b'.answersOf s.number with
    | []             => (.ok (.done 0 0), b')
    | answer :: rest => ((answer.map Reply.response).mapError .server, b'.withAnswers s.number rest)

end Backstage

/-- The far side that a script describes. If a parameter cannot be sent nothing is. -/
def server (s : ServerScript) : Server Backstage where
  acquire     := if s.closedPool then throw .poolClosed else return ()
  prepare sql :=
    match s.prepareErrors.lookup sql with
    | some e => throw (.server e)
    | none   => return s.parameters.getD (sql.toList.count '?')
  run sql arguments :=
    match MySql.sendable 1 arguments with
    | .ok sent    => Backstage.run s sql sent
    | .error told => throw (.told told)

end NamedSql.Rehearsal
