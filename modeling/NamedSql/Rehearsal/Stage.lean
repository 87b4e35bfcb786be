import NamedSql.Driver.Lift
import NamedSql.Rehearsal.Driver
import NamedSql.Rehearsal.Server

/-!
# `NamedSql.Rehearsal.Stage` — scripted databases and servers together

## Contents
- `Stage`: the whole world of a rehearsal. `Stage.journal`, `Stage.since`.
- `stageDriver`: scripted databases and MySQL servers over one journal.
- `ofScript`, `ofServer`: connectors of either sort.
-/

namespace NamedSql.Rehearsal

/-- The whole world of a rehearsal. -/
abbrev Stage := MySql.Pooled Backstage

namespace Stage

/-- The part of the world that scripted databases know. -/
def world (s : Stage) : World := s.far.world

/-- Replaces that part of the world. -/
def withWorld (w : World) (s : Stage) : Stage := { s with far := { s.far with world := w } }

/-- A stage before the first call. -/
def start (answers : List (Nat × List (Except MySql.ServerError MySql.Reply))) : Stage :=
  .ofFar ⟨.start, answers⟩

/-- The journal, latest entry first. -/
def journal (s : Stage) : List Entry := s.world.journal

/-- The entries that were written since an earlier moment, in their order. -/
def since (earlier : Stage) (s : Stage) : List Entry :=
  (s.journal.take (s.journal.length - earlier.journal.length)).reverse

end Stage

/-- Scripted databases, on a stage. -/
def scriptDriver : Driver Stage := driver.lift Stage.world Stage.withWorld

/-- Scripted databases and MySQL servers. -/
def stageDriver : Driver Stage := Driver.sum scriptDriver (MySql.driver Backstage)

/-- The connector of a scripted database. -/
def ofScript (s : Script) : Connector stageDriver where
  name    := s.name
  connect := do return .inl (← (connect s).within Stage.world Stage.withWorld)

/-- The connector of a MySQL server. -/
def ofServer (c : Connector (MySql.driver Backstage)) : Connector stageDriver where
  name    := c.name
  connect := do return .inr (← c.connect)

end NamedSql.Rehearsal
