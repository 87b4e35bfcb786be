import NamedSql.Rehearsal.Script

/-!
# `NamedSql.Rehearsal.World` — the journal of a rehearsal

## Contents
- `Entry`: what the journal tells. `World`: the journal, and the calls that were made.
- `World.record`, `reach`: a call is recorded first, and then it may fail.
-/

namespace NamedSql.Rehearsal

/-- An entry of the journal. The first field is the tag of the connector. -/
inductive Entry where
  | connect (tag : String)
  | prepare (tag sql : String) (keys : KeyCapture)
  | bind (tag : String) (slot : Nat) (value : Value)
  | addBatch (tag : String)
  | setMaxRows (tag : String) (limit : Option Nat)
  | executeQuery (tag : String)
  | executeUpdate (tag : String)
  | executeBatch (tag : String) (entries : List (List (Nat × Value)))
  | generatedKeys (tag : String)
  | next (tag : String)
  | close (tag : String) (resource : Resource)
  /-- A server ran a statement with these parameters. -/
  | executed (tag sql : String) (parameters : List Value)

/-- What a rehearsal leaves behind. -/
structure World where
  /-- The journal, latest entry first. -/
  journal : List Entry
  /-- Every call on a scripted connector, by the connector's number, latest first. -/
  calls   : List (Nat × Point)

/-- The world before the first call. -/
def World.start : World := ⟨[], []⟩

/-- Writes an entry into the journal. -/
def World.record (e : Entry) (w : World) : World := { w with journal := e :: w.journal }

/-- Arrives at a call: records it, counts it, and fails if the script says so. -/
def reach (s : Script) (p : Point) (entry : Option Entry) : Attempt World Failure Unit :=
  .of fun w =>
    let calls := (s.number, p) :: w.calls
    let w' : World := { journal := entry.toList ++ w.journal, calls := calls }
    match s.fault? p (calls.count (s.number, p)) with
    | some f => (.error (.saying f.text), w')
    | none   => (.ok (), w')

end NamedSql.Rehearsal
