import NamedSql.Placeholder.Region
import NamedSql.Text.Quoted

/-!
# `NamedSql.Placeholder.Positional` — statements with positional markers

Drivers know no names: they take values by position. A statement written with names is given
`?` markers in their place, and the names are kept in the order of their markers.

## Contents
- `Positional`, and `Positional.ofNamed`, the step from names to markers.
- `Positional.slots`: the 1-based positions of a name; `mem_slots` says which they are.
- `Positional.display`: the diagnostic text.
-/

namespace NamedSql

/-- A statement whose placeholders are the markers of `text`; `names` has one name per marker, from left
    to right, repetitions included. -/
structure Positional where
  text  : String
  names : List String
deriving DecidableEq, Repr

namespace Positional

/-- Puts the images of some regions together, and their names. -/
def ofRegions (rs : List Region) : Positional where
  text  := String.ofList (rs.flatMap Region.image)
  names := rs.filterMap Region.name?

/-- Puts markers in the place of the named placeholders of a statement. -/
def ofNamed (sql : String) : Positional := ofRegions (regions sql.toList)

/-- The 1-based positions of `name`, in ascending order. -/
def slots (p : Positional) (name : String) : List Nat :=
  p.names.zipIdx.filterMap fun (n, i) => if n = name then some (i + 1) else none

theorem mem_slots {p : Positional} {name : String} {k : Nat} :
    k ∈ p.slots name ↔ ∃ i, k = i + 1 ∧ p.names[i]? = some name := by
  simp only [slots, List.mem_filterMap, Prod.exists, List.mem_zipIdx_iff_getElem?]
  constructor
  · rintro ⟨n, i, hi, hk⟩
    by_cases h : n = name
    · simp [h] at hk
      exact ⟨i, hk.symm, by rw [hi, h]⟩
    · simp [h] at hk
  · rintro ⟨i, rfl, hi⟩
    exact ⟨name, i, hi, by simp⟩

/-- The diagnostic text of a statement with markers. -/
def display (p : Positional) : String :=
  "ParsedStatement [statement=" ++ p.text ++ ", parameters=" ++ Quoted.list p.names ++ "]"

end Positional

end NamedSql
