import NamedSql.Proofs.Transcript.Limit
import NamedSql.Proofs.Value.Nulls

/-!
# `Proofs.Transcript.Scalar` — one column of the first row, or the default

A query for a scalar reads a column of its first row. The default stands in for a row that there is not, and for a
null as well; it never hides a content. What is taken as it is has no nulls: there a null is a content like any other.

## Contents
- `Found`: what a query that succeeds finds in a column of its first row. `Scalar`: the answer, by what is found.
- `column_apply`: what the mapper of a column makes of it, with `column_of_read` and `read_of_column`.
- `running_column_iff`: what is fetched, by what is found (`Fetched`); `fetched_iff_scalar`: the answer, by what is
  fetched.
- `execute_fst_iff` and `executeScalar_fst_iff`: what a query answers, by what it does.
- `Select.executeScalar_default`; `MySql.nullFirst` is a query that finds a null (`MySql.found_null`), for which the
  default is answered or, if the null is taken as it is, the null.
-/

namespace NamedSql

namespace Transcript

variable {σ : Type} {D : Driver σ}

/-! ## What is found -/

/-- What a query for one row finds in a column: nothing if there is no row, else the value there. Everything that is
    asked of the driver succeeds, and so does every close. -/
inductive Found (n : Nat) (c : Core D.transcribed) (w : σ) : Option Value → Prop where
  | noRow {h₁ h₂ h' : Handle D.transcribed} {cursor behind : D.Cursor} {w₁ w₂ w₃ w' : σ} {T₁ T₂ closes : Transcript}
      (hlimit : Limiting c.handle w (.ok ()) h₁ w₁ T₁)
      (ho : Opening .executeQuery D.executeQuery h₁ w₁ (.ok cursor) h₂ w₂ T₂)
      (hmove : D.next.apply (cursor, w₂) = (.ok false, behind, w₃))
      (hr : Releasing { h₂ with cursor := some behind } w₃ (.ok ()) h' w' closes) : Found n c w none
  | row {h₁ h₂ h' : Handle D.transcribed} {cursor first : D.Cursor} {w₁ w₂ w₃ w₄ w' : σ} {T₁ T₂ closes : Transcript}
      {v : Value} (hlimit : Limiting c.handle w (.ok ()) h₁ w₁ T₁)
      (ho : Opening .executeQuery D.executeQuery h₁ w₁ (.ok cursor) h₂ w₂ T₂)
      (hmove : D.next.apply (cursor, w₂) = (.ok true, first, w₃))
      (hget : (D.get first n).apply w₃ = (.ok v, w₄))
      (hr : Releasing { h₂ with cursor := some first } w₄ (.ok ()) h' w' closes) : Found n c w (some v)

/-- What a query for a scalar answers, by what it finds. -/
inductive Scalar (t : Target) (d : Option (Option t.Carrier)) : Option Value → Option t.Carrier → Prop where
  | noRow : Scalar t d none d.join
  /-- A null is as good as no row, except for what is taken as it is. -/
  | null {type : SqlType} (ht : t ≠ .asIs) : Scalar t d (some (.null type)) d.join
  | content {v : Value} {x : t.Carrier} (hread : t.read v = .ok (some x)) : Scalar t d (some v) (some x)

/-! ## From the column to the answer -/

section
variable {t : Target} {n k : Nat} {c : D.Cursor} {w w' : σ}

theorem column_apply (t : Target) (n k : Nat) (c : D.Cursor) (w : σ) :
    (Mapper.column (D := D) t n k c).apply w
      = ((((D.get c n).apply w).1.bind t.read).mapError .failed, ((D.get c n).apply w).2) := by
  show ((D.getAs t c n).reword Halt.failed).apply w = _
  rw [Attempt.reword_apply, D.getAs_apply]

theorem column_of_read {v : Value} {x : Option t.Carrier} (hget : (D.get c n).apply w = (.ok v, w'))
    (hread : t.read v = .ok x) : (Mapper.column (D := D) t n k c).apply w = (.ok x, w') := by
  rw [column_apply, hget]
  show ((t.read v).mapError Halt.failed, w') = _
  rw [hread]
  rfl

theorem read_of_column {x : Option t.Carrier} (h : (Mapper.column (D := D) t n k c).apply w = (.ok x, w')) :
    ∃ v, (D.get c n).apply w = (.ok v, w') ∧ t.read v = .ok x := by
  rw [column_apply] at h
  rcases hget : (D.get c n).apply w with ⟨f | v, w₁⟩
  · rw [hget] at h
    have hfailed : (Except.error (Halt.failed f), w₁) = (Except.ok x, w') := h
    simp at hfailed
  · rw [hget] at h
    have hmapped : ((t.read v).mapError Halt.failed, w₁) = (Except.ok x, w') := h
    obtain ⟨hx, rfl⟩ := Prod.mk.inj hmapped
    rcases hread : t.read v with f | y
    · rw [hread] at hx
      have hfailed : Except.error (Halt.failed f) = Except.ok x := hx
      simp at hfailed
    · rw [hread] at hx
      obtain rfl : y = x := Except.ok.inj hx
      exact ⟨v, rfl, hread⟩

end

/-- What is found, as a mapper of the column fetches it. -/
inductive Fetched (t : Target) : Option Value → Option (Option t.Carrier) → Prop where
  | noRow : Fetched t none none
  | row {v : Value} {x : Option t.Carrier} (hread : t.read v = .ok x) : Fetched t (some v) (some x)

theorem running_column_iff {t : Target} {n : Nat} {c : Core D.transcribed} {w : σ} {row : Option (Option t.Carrier)} :
    (∃ c' w' steps, Running (Fetching (Mapper.column t n)) c w (.ok row) c' w' steps)
      ↔ ∃ found, Found n c w found ∧ Fetched t found row := by
  constructor
  · rintro ⟨c', w', steps, hrun⟩
    -- Only a run in which everything has succeeded has an answer.
    cases hrun with
    | finished hfetch hr =>
      cases hfetch with
      | both hlimit hwork =>
        cases hwork with
        | worked ho hfirst =>
          cases hfirst with
          | noRow hmove       => exact ⟨none, .noRow hlimit ho hmove hr, .noRow⟩
          | mapped hmove hmap =>
            obtain ⟨v, hget, hread⟩ := read_of_column hmap
            exact ⟨some v, .row hlimit ho hmove hget hr, .row hread⟩
  · rintro ⟨found, hfound, hfetched⟩
    cases hfound with
    | noRow hlimit ho hmove hr    =>
      cases hfetched with
      | noRow => exact ⟨_, _, _, .finished (.both hlimit (.worked ho (.noRow hmove))) hr⟩
    | row hlimit ho hmove hget hr =>
      cases hfetched with
      | row hread =>
        have hmap := column_of_read (k := 1) hget hread
        exact ⟨_, _, _, .finished (.both hlimit (.worked ho (.mapped hmove hmap))) hr⟩

/-- The default is put in for what is missing. -/
theorem fetched_iff_scalar {t : Target} {d : Option (Option t.Carrier)} {found : Option Value}
    {x : Option t.Carrier} : (∃ row, Fetched t found row ∧ row.join.or d.join = x) ↔ Scalar t d found x := by
  constructor
  · rintro ⟨row, hfetched, rfl⟩
    cases hfetched with
    | noRow              => exact .noRow
    | @row v y hread =>
      cases y with
      | some y => exact .content hread
      | none   =>
        obtain ⟨ht, hnull⟩ := Target.read_eq_none_iff.mp hread
        obtain ⟨type, rfl⟩ := Value.eq_null_of_isNull hnull
        exact .null ht
  · intro hscalar
    cases hscalar with
    | noRow            => exact ⟨none, .noRow, rfl⟩
    | @null type ht    =>
      have hnull : (Value.null type).isNull = true := rfl
      exact ⟨some none, .row (Target.read_eq_none_iff.mpr ⟨ht, hnull⟩), rfl⟩
    | @content v x hread => exact ⟨some (some x), .row hread, rfl⟩

/-! ## The answer of a run -/

section
variable {α : Type} {m : Mapper D α} {c : Core D.transcribed} {w : σ} {T : Transcript}

/-- What a query without a default answers is what it fetches. -/
theorem execute_fst_iff {row : Option α} :
    ((⟨c, m.transcribed, none⟩ : Select D.transcribed α).execute.apply (w, T)).1 = .ok row
      ↔ ∃ c' w' steps, Running (Fetching m) c w (.ok row) c' w' steps := by
  constructor
  · intro hrow
    obtain ⟨r, c', steps, hr, -, hrun⟩ := execute_apply_iff.mp (Prod.ext hrow rfl)
    have hsame : .ok row = r := by
      rw [hr]
      match r with
      | .error e       => rfl
      | .ok none       => rfl
      | .ok (some row) => rfl
    exact ⟨c', _, steps, hsame ▸ hrun⟩
  · rintro ⟨c', w', steps, hrun⟩
    have hend := execute_apply_iff.mpr ⟨.ok row, c', steps, (rfl : orDefault none _ = _), (rfl : T ++ steps = _), hrun⟩
    rw [hend, orDefault_eq_map]
    exact congrArg Except.ok (Option.or_none ..)

/-- A query for a scalar puts its default in behind the run. -/
theorem executeScalar_fst {m : Mapper D (Option α)} {d : Option (Option α)} :
    ((⟨c, m.transcribed, d⟩ : Select D.transcribed (Option α)).executeScalar.apply (w, T)).1
      = ((⟨c, m.transcribed, none⟩ : Select D.transcribed (Option α)).execute.apply (w, T)).1.map
          fun row => row.join.or d.join :=
  Attempt.bind_pure_fst _ _ _

theorem executeScalar_fst_iff {m : Mapper D (Option α)} {d : Option (Option α)} {x : Option α} :
    ((⟨c, m.transcribed, d⟩ : Select D.transcribed (Option α)).executeScalar.apply (w, T)).1 = .ok x
      ↔ ∃ row, (∃ c' w' steps, Running (Fetching m) c w (.ok row) c' w' steps) ∧ row.join.or d.join = x := by
  rw [executeScalar_fst]
  simp only [← execute_fst_iff (T := T)]
  generalize ((⟨c, m.transcribed, none⟩ : Select D.transcribed (Option α)).execute.apply (w, T)).1 = r
  cases r with
  | error e => simp [Except.map]
  | ok row  => simp [Except.map]

end

end Transcript

namespace Select

open Transcript

variable {σ : Type}

/-- **The default never hides a content.** A query for a scalar has an answer just if everything that is asked of the
    driver succeeds, the closes too, and what is found in the column can be read. The answer is the default if there is
    no row, and if a null is found that is not taken as it is; in all other cases it is what is found. A value that is
    no null is never read as nothing. -/
theorem executeScalar_default (D : Driver σ) (t : Target) (n : Nat) (d : Option (Option t.Carrier))
    (c : Core D.transcribed) (w : σ) (T : Transcript) :
    let q : Select D.transcribed (Option t.Carrier) := ⟨c, (Mapper.column t n).transcribed, d⟩
    (∀ x, (q.executeScalar.apply (w, T)).1 = .ok x ↔ ∃ found, Found n c w found ∧ Scalar t d found x)
      ∧ ∀ v, v.isNull = false → t.read v ≠ .ok none := by
  intro q
  refine ⟨?answer, ?content⟩
  case answer =>
    intro x
    rw [executeScalar_fst_iff]
    simp only [running_column_iff]
    constructor
    · rintro ⟨row, ⟨found, hfound, hfetched⟩, hx⟩
      exact ⟨found, hfound, fetched_iff_scalar.mp ⟨row, hfetched, hx⟩⟩
    · rintro ⟨found, hfound, hscalar⟩
      obtain ⟨row, hfetched, hx⟩ := fetched_iff_scalar.mpr hscalar
      exact ⟨row, ⟨found, hfound, hfetched⟩, hx⟩
  case content =>
    intro v hv hread
    obtain ⟨-, hnull⟩ := Target.read_eq_none_iff.mp hread
    rw [hv] at hnull
    simp at hnull

end Select

namespace MySql

open Transcript

/-- A query for the first column over rows that begin with a null, for which there is a default. -/
def nullFirst (t : Target) (d : t.Carrier) : Select (driver Unit).transcribed (Option t.Carrier) :=
  ⟨fromTwoRows.core, (Mapper.column t 1).transcribed, some (some d)⟩

theorem found_null : Found (D := driver Unit) 1 fromTwoRows.core (.ofFar ()) (some (.null .integer)) := by
  obtain ⟨h₁, h₂, cursor, first, p₁, p₂, p₃, p₄, T₁, T₂, hlimit, ho, hmove, hget⟩ :
      ∃ h₁ h₂ cursor first p₁ p₂ p₃ p₄ T₁ T₂,
        Limiting (D := driver Unit) fromTwoRows.core.handle (.ofFar ()) (.ok ()) h₁ p₁ T₁
          ∧ Opening .executeQuery (driver Unit).executeQuery h₁ p₁ (.ok cursor) h₂ p₂ T₂
          ∧ (driver Unit).next.apply (cursor, p₂) = (.ok true, first, p₃)
          ∧ ((driver Unit).get first 1).apply p₃ = (.ok (.null .integer), p₄) :=
    ⟨_, _, _, _, _, _, _, _, _, _, .answered rfl, .opened .nothing rfl, rfl, rfl⟩
  obtain ⟨r, h', p', closes, hr⟩ := cleanup_depicted.total { h₂ with cursor := some first } p₄
  obtain rfl := releasing_ok hr
  exact .row hlimit ho hmove hget hr

/-- Where a number is wanted the default is answered for a null. -/
theorem executeScalar_default_overNull :
    Found (D := driver Unit) 1 fromTwoRows.core (.ofFar ()) (some (.null .integer))
      ∧ ((nullFirst (.typed .bigInt) (5 : Int64)).executeScalar.apply (.ofFar (), [])).1 = .ok (some (5 : Int64))
      ∧ (Value.int 7).isNull = false ∧ Target.read (.typed .bigInt) (.int 7) ≠ .ok none := by
  obtain ⟨hanswer, hcontent⟩ := Select.executeScalar_default (driver Unit) (.typed .bigInt) 1
    (some (some (5 : Int64))) fromTwoRows.core (.ofFar ()) []
  have hscalar : Scalar (.typed .bigInt) (some (some (5 : Int64))) (some (.null .integer)) (some (5 : Int64)) :=
    .null (by simp)
  have hseven : (Value.int 7).isNull = false := rfl
  exact ⟨found_null, (hanswer _).mpr ⟨_, found_null, hscalar⟩, hseven, hcontent _ hseven⟩

/-- A null that is taken as it is keeps the default from being answered. -/
theorem null_asIs_is_answered :
    Found (D := driver Unit) 1 (nullFirst .asIs (.int 5)).core (.ofFar ()) (some (.null .integer))
      ∧ (nullFirst .asIs (.int 5)).default.join = some (.int 5)
      ∧ ((nullFirst .asIs (.int 5)).executeScalar.apply (.ofFar (), [])).1 = .ok (some (.null .integer))
      ∧ ((nullFirst .asIs (.int 5)).executeScalar.apply (.ofFar (), [])).1
        ≠ .ok (nullFirst .asIs (.int 5)).default.join := by
  have hanswer : ((nullFirst .asIs (.int 5)).executeScalar.apply (.ofFar (), [])).1 = .ok (some (.null .integer)) := rfl
  refine ⟨found_null, rfl, hanswer, ?_⟩
  rw [hanswer]
  show Except.ok (some (Value.null .integer)) ≠ Except.ok (some (Value.int 5))
  simp

end MySql

end NamedSql
