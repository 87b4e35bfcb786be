import NamedSql.Proofs.Placeholder.Settled

/-!
# `Proofs.Placeholder.Markers` — which question mark stands for which name

A driver takes the question marks outside the literals of a rewritten text for its slots, from left to right.
Some of them were put in for a name; others stood in the statement already and were copied. Both kinds are
listed here with their places in the rewritten text, and the list is the one that a reading of the rewritten
text gives. Names and markers go together just if the statement had no such marker of its own.

## Contents
- **Markers of a text.** `unquotedMarkers`, the places of the question marks outside the literals of a text.
- **Markers of a rewriting.** `Marker`, `markers`, the markers that the rewriting of a statement leaves.
- **Agreement.** `placesFrom_settled`, `name?_markersFrom`, `length_markersFrom`,
  `map_name?_markersFrom_iff`.
- `Positional.unquotedMarkers_text`: the markers of a rewritten text and the names they stand for.
-/

namespace NamedSql

/-! ## Markers of a text -/

/-- The places of the question marks of a region that begins at place `k`. What a literal holds is no marker. -/
def Region.placesAt (k : Nat) : Region → List Nat
  | .literal _ _ => []
  | r            => r.source.idxsOf '?' k

/-- The places of the question marks outside literals, of regions that begin at place `k`. -/
def placesFrom (k : Nat) : List Region → List Nat
  | []      => []
  | r :: rs => r.placesAt k ++ placesFrom (k + r.source.length) rs

/-- The places of the question marks of a text that stand outside its literals, from left to right. -/
def unquotedMarkers (s : List Char) : List Nat := placesFrom 0 (regions s)

/-! ## Markers of a rewriting -/

/-- A question mark outside the literals of a rewritten text. -/
structure Marker where
  place : Nat
  /-- The name it was put in for, unless the statement had the marker itself. -/
  name? : Option String
deriving DecidableEq, Repr

/-- The marker that a region leaves, if what it becomes stands at place `k` of the rewritten text. -/
def Region.markersAt (k : Nat) : Region → List Marker
  | .placeholder name => [⟨k, some (String.ofList name)⟩]
  | .plain c          => if c = '?' then [⟨k, none⟩] else []
  | _                 => []

/-- The markers that regions leave, if what they become begins at place `k` of the rewritten text. -/
def markersFrom (k : Nat) : List Region → List Marker
  | []      => []
  | r :: rs => r.markersAt k ++ markersFrom (k + r.image.length) rs

/-- The markers that the rewriting of a statement leaves outside literals, from left to right. -/
def markers (sql : String) : List Marker := markersFrom 0 (regions sql.toList)

/-! ## Agreement -/

namespace Region

theorem placesAt_settled (k : Nat) (r : Region) : r.settled.placesAt k = (r.markersAt k).map Marker.place := by
  cases r with
  | comment | literal | placeholder => rfl
  | plain c =>
    by_cases hc : c = '?'
    · subst hc
      rfl
    · simp [settled, placesAt, source, markersAt, hc]

theorem name?_markersAt (k : Nat) (r : Region) : (r.markersAt k).filterMap Marker.name? = r.name?.toList := by
  cases r with
  | comment | literal | placeholder => rfl
  | plain c => by_cases hc : c = '?' <;> simp [markersAt, name?, hc]

/-- A region leaves the marker of its name, or the marker that it is, or none. -/
theorem length_markersAt (k : Nat) (r : Region) :
    (r.markersAt k).length = r.name?.toList.length + if r = plain '?' then 1 else 0 := by
  cases r with
  | comment | literal | placeholder => simp [markersAt, name?]
  | plain c => by_cases hc : c = '?' <;> simp [markersAt, name?, hc]

theorem map_name?_markersAt {r : Region} (k : Nat) (h : r ≠ plain '?') :
    (r.markersAt k).map Marker.name? = r.name?.toList.map some := by
  cases r with
  | comment | literal | placeholder => rfl
  | plain c =>
    have hc : c ≠ '?' := fun he => h (by rw [he])
    simp [markersAt, name?, hc]

end Region

/-- **A reading of the rewritten text finds the markers that the rewriting left, at their places.** -/
theorem placesFrom_settled (k : Nat) (rs : List Region) :
    placesFrom k (rs.map Region.settled) = (markersFrom k rs).map Marker.place := by
  induction rs generalizing k with
  | nil => rfl
  | cons r rs ih =>
    rw [List.map_cons, placesFrom, markersFrom, List.map_append, ih, r.placesAt_settled, r.source_settled]

/-- The names are those of the markers that have one, in order. -/
theorem name?_markersFrom (k : Nat) (rs : List Region) :
    (markersFrom k rs).filterMap Marker.name? = rs.filterMap Region.name? := by
  induction rs generalizing k with
  | nil => rfl
  | cons r rs ih =>
    rw [markersFrom, List.filterMap_append, ih, r.name?_markersAt]
    cases hr : r.name? <;> simp [hr]

theorem length_markersFrom (k : Nat) (rs : List Region) :
    (markersFrom k rs).length = (rs.filterMap Region.name?).length + rs.count (.plain '?') := by
  induction rs generalizing k with
  | nil => rfl
  | cons r rs ih =>
    rw [markersFrom, List.length_append, ih, r.length_markersAt, List.count_cons]
    cases hr : r.name? <;> simp [hr] <;> omega

/-- The markers stand for the names one by one just if none of them was copied. -/
theorem map_name?_markersFrom_iff (k : Nat) (rs : List Region) :
    (markersFrom k rs).map Marker.name? = (rs.filterMap Region.name?).map some ↔ .plain '?' ∉ rs := by
  constructor
  · intro h hmem
    -- A copied marker makes the list of markers longer than the list of names.
    have hlength := congrArg List.length h
    rw [List.length_map, List.length_map, length_markersFrom] at hlength
    have hcount : 0 < rs.count (.plain '?') := List.count_pos_iff.mpr hmem
    omega
  · intro h
    induction rs generalizing k with
    | nil => rfl
    | cons r rs ih =>
      rw [List.mem_cons, not_or] at h
      rw [markersFrom, List.map_append, ih _ h.2, r.map_name?_markersAt k (Ne.symm h.1)]
      cases hr : r.name? <;> simp [hr]

namespace Positional

/-- **The markers of a rewritten text.** The question marks outside its literals are those that the rewriting
    left, at the same places and in the same order; the names are the names of those that were put in for one;
    and beside these there are as many as the statement had outside literals and comments itself. So there are
    as many markers as names, and the one of each place in the list is the one put in for the name of that place,
    just if the statement had none. -/
theorem unquotedMarkers_text (sql : String) :
    unquotedMarkers (ofNamed sql).text.toList = (markers sql).map Marker.place
    ∧ (ofNamed sql).names = (markers sql).filterMap Marker.name?
    ∧ (unquotedMarkers (ofNamed sql).text.toList).length
        = (ofNamed sql).names.length + (regions sql.toList).count (.plain '?')
    ∧ ((unquotedMarkers (ofNamed sql).text.toList).length = (ofNamed sql).names.length
        ↔ .plain '?' ∉ regions sql.toList)
    ∧ ((markers sql).map Marker.name? = (ofNamed sql).names.map some ↔ .plain '?' ∉ regions sql.toList) := by
  have hplaces : unquotedMarkers (ofNamed sql).text.toList = (markers sql).map Marker.place := by
    rw [unquotedMarkers, regions_text, placesFrom_settled, markers]
  have hlength : (unquotedMarkers (ofNamed sql).text.toList).length
      = (ofNamed sql).names.length + (regions sql.toList).count (.plain '?') := by
    rw [hplaces, List.length_map]
    exact length_markersFrom 0 _
  refine ⟨hplaces, (name?_markersFrom 0 _).symm, hlength, ?_, map_name?_markersFrom_iff 0 _⟩
  rw [hlength, ← List.count_eq_zero]
  omega

/-- A marker that the statement has itself comes before the marker of the only name, and takes its slot. -/
theorem markers_outnumber_names :
    (unquotedMarkers (ofNamed "a = ? and b = :b").text.toList).length
      ≠ (ofNamed "a = ? and b = :b").names.length
    ∧ markers "a = ? and b = :b" = [⟨4, none⟩, ⟨14, some "b"⟩]
    ∧ (ofNamed "a = ? and b = :b").slots "b" = [1] := by
  decide +kernel

end Positional

end NamedSql
