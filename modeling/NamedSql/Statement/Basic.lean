import NamedSql.Statement.Select
import NamedSql.Statement.Update

/-!
# `NamedSql.Statement.Basic` — binding values to statements

Queries and updates bind values in the same ways: by name or by the number of the slot, in place or in a
chain. A chain uses the statement up when a bind fails.

## Contents
- `HasCore`: what is bound to; `bindValue`, `bindIndex` in place, `set`, `setNull`, `setAt` in a chain.
- `Update.addBatch`, which belongs to the chain.
- `Statement`: a query or an update, for those who do not care which.
-/

namespace NamedSql

variable {σ α S : Type} {D : Driver σ}

/-- Statements of some shape, by what they have in common. -/
class HasCore (D : outParam (Driver σ)) (S : Type) where
  core     : S → Core D
  withCore : S → Core D → S
  core_withCore : ∀ s c, core (withCore s c) = c
  withCore_core : ∀ s, withCore s (core s) = s
  withCore_withCore : ∀ s c c', withCore (withCore s c) c' = withCore s c'

instance : HasCore D (Select D α) where
  core     := Select.core
  withCore := fun s c => { s with core := c }
  core_withCore := fun _ _ => rfl
  withCore_core := fun _ => rfl
  withCore_withCore := fun _ _ _ => rfl

instance : HasCore D (Update D) where
  core     := Update.core
  withCore := fun _ c => ⟨c⟩
  core_withCore := fun _ _ => rfl
  withCore_core := fun _ => rfl
  withCore_withCore := fun _ _ _ => rfl

namespace HasCore

variable [HasCore D S]

/-- A step on what the statement has in common with others. -/
def onCore {ε β : Type} (x : Attempt (Core D × σ) ε β) : Attempt (S × σ) ε β :=
  .of fun (s, w) => let (r, c, w') := x.apply (core s, w); (r, withCore s c, w')

/-- Binds a value to every slot of a name; a name that does not occur is ignored. -/
def bindValue (name : String) (value : Value) : Attempt (S × σ) Error Unit := onCore (Core.bind name value)

/-- Binds a value to a slot by its number. -/
def bindIndex (slot : Nat) (value : Value) : Attempt (S × σ) Error Unit := onCore (Core.bindAt slot value)

/-- A step that hands the statement on, or lets it go if the step fails. -/
def chain (x : Attempt (S × σ) Error Unit) (s : S) : Attempt σ Error S :=
  .of fun w =>
    match x.apply (s, w) with
    | (.ok (), s', w')   => (.ok s', w')
    | (.error e, s', w') => (.error e, (core s').handle.discard w')

/-- Binds a value to every slot of a name and hands the statement on. -/
def set (s : S) (name : String) (value : Value) : Attempt σ Error S := chain (bindValue name value) s

/-- Binds a typed null to every slot of a name and hands the statement on. -/
def setNull (s : S) (name : String) (type : SqlType) : Attempt σ Error S := set s name (.null type)

/-- Binds a value to a slot by its number and hands the statement on. -/
def setAt (s : S) (slot : Nat) (value : Value) : Attempt σ Error S := chain (bindIndex slot value) s

/-- What happens when a statement is let go without being run. -/
def discard (s : S) (w : σ) : σ := (core s).handle.discard w

end HasCore

/-- Queues the values bound now as one entry of a batch and hands the update on. -/
def Update.addBatch (u : Update D) : Attempt σ Error (Update D) :=
  HasCore.chain (HasCore.onCore Core.addBatch) u

/-! ## Either shape -/

/-- A query or an update. -/
inductive Statement (D : Driver σ) (α : Type) where
  | select (s : Select D α)
  | update (u : Update D)

namespace Statement

/-- What a statement has in common with others. -/
def core : Statement D α → Core D
  | select s => s.core
  | update u => u.core

instance : HasCore D (Statement D α) where
  core     := core
  withCore := fun
    | select s, c => select { s with core := c }
    | update _, c => update ⟨c⟩
  core_withCore := fun s _ => by cases s <;> rfl
  withCore_core := fun s => by cases s <;> rfl
  withCore_withCore := fun s _ _ => by cases s <;> rfl

/-- The statement as it was written. -/
def text (s : Statement D α) : String := s.core.text

/-- The names of the placeholders, one per marker. -/
def names (s : Statement D α) : List String := s.core.positional.names

/-- The diagnostic text of either shape. -/
def display : Statement D α → String
  | select s => s.display
  | update u => u.display

end Statement

end NamedSql
