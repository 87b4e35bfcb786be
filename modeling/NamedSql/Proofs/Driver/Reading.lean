import NamedSql.Proofs.Attempt.Ensures
import NamedSql.Driver.Rows

/-!
# `Proofs.Driver.Reading` — rows and columns of a cursor

## Contents
- `Driver.getAs_apply`: a typed reading. It changes what a reading changes (`getAs_apply_snd`); `getAs_of_ok` is for
  one that succeeds.
- `Driver.collect_invariant`: what each move and each step on a row keeps, a whole pass keeps.
- `Driver.collect_of_done`, `Driver.collect_of_row`: a pass that is over, and one that goes on; and one that fails,
  at a move (`collect_of_unmoved`) or at a row (`collect_of_unmapped`).
- `Rows.next_of_lt`, `Rows.next_of_le`, `Rows.get_of_row`: cursors in memory, before and behind the last row.
-/

namespace NamedSql

namespace Driver

variable {σ ε α : Type} (D : Driver σ)

theorem getAs_apply (t : Target) (c : D.Cursor) (column : Nat) (w : σ) :
    (D.getAs t c column).apply w = (((D.get c column).apply w).1.bind t.read, ((D.get c column).apply w).2) := by
  unfold getAs
  rw [Attempt.bind_apply]
  match (D.get c column).apply w with
  | (.error f, w') => rfl
  | (.ok v, w')    =>
    simp only
    show _ = (t.read v, w')
    match t.read v with
    | .ok x    => rfl
    | .error f => rfl

theorem getAs_apply_snd (t : Target) (c : D.Cursor) (column : Nat) (w : σ) :
    ((D.getAs t c column).apply w).2 = ((D.get c column).apply w).2 := by
  rw [getAs_apply]

theorem getAs_of_ok {t : Target} {c : D.Cursor} {column : Nat} {v : Value} {x : Option t.Carrier} {w w' : σ}
    (hget : (D.get c column).apply w = (.ok v, w')) (hread : t.read v = .ok x) :
    (D.getAs t c column).apply w = (.ok x, w') := by
  rw [getAs_apply, hget]
  exact congrArg (·, w') hread

/-- What holds of a cursor and the world, and still holds after each move of the cursor and after each step on
    a row, holds after a pass over all rows, also if that fails. -/
theorem collect_invariant {R : D.Cursor × σ → Prop} {wrap : Failure → ε} {step : Nat → D.Cursor → Attempt σ ε α}
    (hnext : ∀ s, R s → R (D.next.apply s).2) (hstep : ∀ k c w, R (c, w) → R (c, ((step k c).apply w).2))
    (k : Nat) (s : D.Cursor × σ) (h : R s) : R (D.collect wrap step k s).2 := by
  have hmoved : ∀ {s s' r}, R s → D.next.apply s = (r, s') → R s' := by
    intro s s' r hs hmove
    have hend := hnext s hs
    rwa [hmove] at hend
  have hstepped : ∀ {k c w r w'}, R (c, w) → (step k c).apply w = (r, w') → R (c, w') := by
    intro k c w r w' hs hmap
    have hend := hstep k c w hs
    rwa [hmap] at hend
  -- The induction is on the rows that are left.
  fun_induction Driver.collect D wrap step k s with
  | case1 k s f s' hmove => exact hmoved h hmove
  | case2 k s s' hmove => exact hmoved h hmove
  | case3 k s c w hmove e w' hfail => exact hstepped (hmoved h hmove) hfail
  | case4 k s c w hmove a w' hok as s' hrest ih =>
    have hend := ih (hstepped (hmoved h hmove) hok)
    rwa [hrest] at hend
  | case5 k s c w hmove a w' hok e s' hrest ih =>
    have hend := ih (hstepped (hmoved h hmove) hok)
    rwa [hrest] at hend

section
variable {wrap : Failure → ε} {step : Nat → D.Cursor → Attempt σ ε α} {k : Nat} {s : D.Cursor × σ}

theorem collect_of_done {s' : D.Cursor × σ} (h : D.next.apply s = (.ok false, s')) :
    D.collect wrap step k s = (.ok [], s') := by
  rw [collect]
  split
  next f s₁ hmove => exact absurd (h.symm.trans hmove) (by simp)
  next s₁ hmove =>
    obtain ⟨-, rfl⟩ := Prod.mk.inj (h.symm.trans hmove)
    rfl
  next c w hmove => exact absurd (h.symm.trans hmove) (by simp)

theorem collect_of_unmoved {s' : D.Cursor × σ} {f : Failure} (h : D.next.apply s = (.error f, s')) :
    D.collect wrap step k s = (.error (wrap f), s') := by
  rw [collect]
  split
  next f₁ s₁ hmove =>
    obtain ⟨hf, rfl⟩ := Prod.mk.inj (h.symm.trans hmove)
    rw [Except.error.inj hf]
  next s₁ hmove => exact absurd (h.symm.trans hmove) (by simp)
  next c w hmove => exact absurd (h.symm.trans hmove) (by simp)

theorem collect_of_unmapped {c : D.Cursor} {w w' : σ} {e : ε} (hmove : D.next.apply s = (.ok true, c, w))
    (hstep : (step k c).apply w = (.error e, w')) : D.collect wrap step k s = (.error e, c, w') := by
  rw [collect]
  split
  next f s₁ hmove' => exact absurd (hmove.symm.trans hmove') (by simp)
  next s₁ hmove' => exact absurd (hmove.symm.trans hmove') (by simp)
  next c₁ w₁ hmove' =>
    obtain ⟨-, hs⟩ := Prod.mk.inj (hmove.symm.trans hmove')
    obtain ⟨rfl, rfl⟩ := Prod.mk.inj hs
    rw [hstep]

theorem collect_of_row {c : D.Cursor} {w w' : σ} {a : α} (hmove : D.next.apply s = (.ok true, c, w))
    (hstep : (step k c).apply w = (.ok a, w')) :
    D.collect wrap step k s
      = ((D.collect wrap step (k + 1) (c, w')).1.map (a :: ·), (D.collect wrap step (k + 1) (c, w')).2) := by
  rw [collect]
  split
  next f s₁ hmove' => exact absurd (hmove.symm.trans hmove') (by simp)
  next s₁ hmove' => exact absurd (hmove.symm.trans hmove') (by simp)
  next c₁ w₁ hmove' =>
    obtain ⟨-, hs⟩ := Prod.mk.inj (hmove.symm.trans hmove')
    obtain ⟨rfl, rfl⟩ := Prod.mk.inj hs
    rw [hstep]
    simp only
    rcases D.collect wrap step (k + 1) (c, w') with ⟨e | as, s'⟩
    · rfl
    · rfl

end

end Driver

namespace Rows

variable {r : Rows} (hopen : r.closed = false)
include hopen

theorem next_of_lt (h : r.upcoming < r.rows.length) :
    r.next = (.ok true, { r with position := some r.upcoming }) := by
  rw [next, if_neg (by simp [hopen]), decide_eq_true h, Nat.min_eq_left (Nat.le_of_lt h)]

theorem next_of_le (h : r.rows.length ≤ r.upcoming) :
    r.next = (.ok false, { r with position := some r.rows.length }) := by
  rw [next, if_neg (by simp [hopen]), decide_eq_false (Nat.not_lt.mpr h), Nat.min_eq_right h]

theorem get_of_row {i : Nat} {row : List Value} (hposition : r.position = some i) (hrow : r.rows[i]? = some row)
    (n : Nat) : r.get n = column row n := by
  rw [get, current, if_neg (by simp [hopen]), hposition, Option.bind_some, hrow]
  rfl

end Rows

end NamedSql
