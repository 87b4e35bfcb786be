import NamedSql.Value.Convert

/-!
# `Proofs.Value.Nulls` — what reads as nothing

A null reads as nothing, whatever type is wanted of it, and no other value does: it is read as something or refused.
A value that is taken as it is reads as something in any case.

## Contents
- `Value.readWhole_of_not_null`, `Value.readWhole_ne_none`, `Value.readDouble_ne_none`, `Value.readBool_ne_none`: the
  conversions to numbers and truth values.
- `Value.read_eq_none_iff` for all SQL types, and `Target.read_eq_none_iff`.
-/

namespace NamedSql

namespace Value

variable {v : Value}

theorem eq_null_of_isNull (h : v.isNull = true) : ∃ type, v = null type := by
  cases v with
  | null type => exact ⟨type, rfl⟩
  | _         => simp [isNull] at h

section
variable (h : v.isNull = false)
include h

/-- What is no null is read by the number that it stands for. -/
theorem readWhole_of_not_null (target : SqlType) (low high : Int) :
    v.readWhole target low high =
      match v.whole? with
      | none   => .error (.mismatch v target)
      | some n => if inRange low high n then .ok (some n) else .error (.outOfRange n target) := by
  cases v with
  | null type => simp [isNull] at h
  | _         => rfl

theorem readWhole_ne_none (target : SqlType) (low high : Int) : v.readWhole target low high ≠ .ok none := by
  rw [readWhole_of_not_null h]
  cases v.whole? with
  | none   => simp
  | some n =>
    by_cases hrange : inRange low high n = true
    · simp [hrange]
    · simp [hrange]

theorem readDouble_ne_none : v.readDouble ≠ .ok none := by
  cases v with
  | null type => simp [isNull] at h
  | text s    =>
    rw [readDouble]
    split
    · simp
    · simp
  | _         => simp [readDouble]

theorem readBool_ne_none : v.readBool ≠ .ok none := by
  cases v with
  | null type => simp [isNull] at h
  | _         => simp [readBool]

end

/-- What is made of a content is no less than the content. -/
theorem map_ne_none {α β : Type} {r : Except Failure (Option α)} (h : r ≠ .ok none) (g : α → β) :
    r.map (·.map g) ≠ .ok none := by
  match r with
  | .error f      => simp [Except.map]
  | .ok none      => exact absurd rfl h
  | .ok (some x)  => simp [Except.map]

/-- A null is all that reads as nothing. -/
theorem read_eq_none_iff {type : SqlType} : v.read type = .ok none ↔ v.isNull = true := by
  cases h : v.isNull with
  | true  =>
    obtain ⟨s, rfl⟩ := eq_null_of_isNull h
    exact iff_of_true (read_null type s) rfl
  | false =>
    -- A value that is no null is refused, or it reads as something.
    refine iff_of_false ?_ (by simp)
    cases type with
    | smallInt  => exact map_ne_none (readWhole_ne_none h _ _ _) _
    | integer   => exact map_ne_none (readWhole_ne_none h _ _ _) _
    | bigInt    => exact map_ne_none (readWhole_ne_none h _ _ _) _
    | float     =>
      cases v with
      | float x => simp [read]
      | _       => exact map_ne_none (readDouble_ne_none h) Float.toFloat32
    | double    => exact readDouble_ne_none h
    | boolean   => exact readBool_ne_none h
    | _         =>
      cases v with
      | null s => simp [isNull] at h
      | _      => simp [read]

end Value

theorem Target.read_eq_none_iff {t : Target} {v : Value} :
    t.read v = .ok none ↔ t ≠ .asIs ∧ v.isNull = true := by
  cases t with
  | asIs       => simp [Target.read]
  | typed type =>
    have hread : v.read type = .ok none ↔ v.isNull = true := Value.read_eq_none_iff
    constructor
    · intro hnone
      exact ⟨by simp, hread.mp hnone⟩
    · rintro ⟨-, hnull⟩
      exact hread.mpr hnull

end NamedSql
