import NamedSql.Proofs.Attempt.Ensures
import NamedSql.Statement.Mapper

/-!
# `Proofs.Driver.SameRow` — rows that read alike

Two cursors may stand on rows that nobody can tell apart who only reads them, although one of them has more rows to
come. What a mapper makes of a row is the same for both, as long as it only reads.

## Contents
- `Attempt.Agree`: two steps that answer the same from worlds that are alike. Its rules: `Agree.pure`, `Agree.throw`,
  `Agree.bind`, `Agree.reword`, and `Agree.mapM` for one step per element.
- `Driver.SameRow`: cursors whose rows read alike; `SameRow.getAs`, `SameRow.columnIndex`.
- `Mapper.OnlyReads`, with `OnlyReads.answer`; the mappers of the library do no more, since their steps agree
  (`onlyReads_of_agree`).
-/

namespace NamedSql

variable {σ ε ε' α β γ : Type}

/-! ## Steps that agree -/

namespace Attempt

/-- From worlds that are alike, two steps answer the same and leave worlds that are alike. -/
def Agree (R : σ → σ → Prop) (x y : Attempt σ ε α) : Prop :=
  ∀ w w', R w w' → (x.apply w).1 = (y.apply w').1 ∧ R (x.apply w).2 (y.apply w').2

namespace Agree

variable {R : σ → σ → Prop} {x y : Attempt σ ε α}

theorem pure (a : α) : Agree R (Pure.pure a : Attempt σ ε α) (Pure.pure a) :=
  fun _ _ hw => ⟨rfl, hw⟩

theorem throw (e : ε) : Agree R (MonadExcept.throw e : Attempt σ ε α) (MonadExcept.throw e) :=
  fun _ _ hw => ⟨rfl, hw⟩

theorem bind {f g : α → Attempt σ ε β} (h : Agree R x y) (hf : ∀ a, Agree R (f a) (g a)) :
    Agree R (x >>= f) (y >>= g) := by
  intro w w' hw
  obtain ⟨hanswer, hw'⟩ := h w w' hw
  rw [bind_apply, bind_apply]
  match hx : x.apply w, hy : y.apply w' with
  | (.ok a, w₁), (.ok b, w₂)       =>
    rw [hx, hy] at hanswer hw'
    rw [Except.ok.inj hanswer]
    exact hf b w₁ w₂ hw'
  | (.error e, w₁), (.error e', w₂) =>
    rw [hx, hy] at hanswer hw'
    rw [Except.error.inj hanswer]
    exact ⟨rfl, hw'⟩
  | (.ok a, w₁), (.error e, w₂)    =>
    rw [hx, hy] at hanswer
    exact absurd hanswer (by simp)
  | (.error e, w₁), (.ok a, w₂)    =>
    rw [hx, hy] at hanswer
    exact absurd hanswer (by simp)

theorem reword (g : ε → ε') (h : Agree R x y) : Agree R (x.reword g) (y.reword g) := by
  intro w w' hw
  obtain ⟨hanswer, hw'⟩ := h w w' hw
  rw [reword_apply, reword_apply, hanswer]
  exact ⟨rfl, hw'⟩

theorem mapM {f g : γ → Attempt σ ε α} (h : ∀ a, Agree R (f a) (g a)) (l : List γ) :
    Agree R (l.mapM f) (l.mapM g) := by
  induction l with
  | nil =>
    rw [List.mapM_nil, List.mapM_nil]
    exact pure []
  | cons a l ih =>
    rw [List.mapM_cons, List.mapM_cons]
    exact bind (h a) fun b => bind ih fun bs => pure (b :: bs)

end Agree

end Attempt

/-! ## Rows -/

/-- Two cursors on rows that read alike. `R` says which worlds are alike: reading leads from such worlds to such
    worlds. -/
structure Driver.SameRow (D : Driver σ) (R : σ → σ → Prop) (c c' : D.Cursor) : Prop where
  columnCount : D.columnCount c = D.columnCount c'
  columnLabel (column : Nat) : D.columnLabel c column = D.columnLabel c' column
  get (column : Nat) : Attempt.Agree R (D.get c column) (D.get c' column)

namespace Driver.SameRow

variable {D : Driver σ} {R : σ → σ → Prop} {c c' : D.Cursor}

theorem getAs (h : D.SameRow R c c') (t : Target) (column : Nat) :
    Attempt.Agree R (D.getAs t c column) (D.getAs t c' column) := by
  unfold Driver.getAs
  refine (h.get column).bind ?_
  intro v
  cases t.read v with
  | ok x    => exact .pure x
  | error f => exact .throw f

theorem columnIndex (h : D.SameRow R c c') (label : String) : D.columnIndex c label = D.columnIndex c' label := by
  unfold Driver.columnIndex
  simp only [h.columnCount, h.columnLabel]

end Driver.SameRow

/-! ## Mappers -/

namespace Mapper

variable {D : Driver σ}

/-- A mapper that makes the same of rows that read alike. This is asked of a mapper that is given a row twice, by a
    cursor with further rows behind it and by one without: a mapper is a function of the row it is given, but its
    type lets it look at anything else about the cursor too. What it leaves behind does not matter. -/
def OnlyReads (m : Mapper D α) : Prop :=
  ∀ (R : σ → σ → Prop) (c c' : D.Cursor), D.SameRow R c c' →
    ∀ (k : Nat) (w w' : σ), R w w' → ((m k c).apply w).1 = ((m k c').apply w').1

/-- A mapper whose steps agree answers the same, whatever its steps leave. -/
theorem onlyReads_of_agree {m : Mapper D α}
    (hm : ∀ (R : σ → σ → Prop) (c c' : D.Cursor), D.SameRow R c c' → ∀ k, Attempt.Agree R (m k c) (m k c')) :
    m.OnlyReads :=
  fun R c c' h k w w' hw => (hm R c c' h k w w' hw).1

theorem OnlyReads.answer {m : Mapper D α} (hm : m.OnlyReads) {R : σ → σ → Prop} {c c' : D.Cursor} {w w' w₁ : σ}
    {k : Nat} {r : Except (Halt Failure) α} (hrow : D.SameRow R c c') (hw : R w w') (h : (m k c).apply w = (r, w₁)) :
    ∃ w₁', (m k c').apply w' = (r, w₁') := by
  have hanswer := hm R c c' hrow k w w' hw
  rw [h] at hanswer
  refine ⟨((m k c').apply w').2, Prod.ext hanswer.symm ?_⟩
  rfl

theorem ofRead_onlyReads {f : D.Cursor → Attempt σ Failure α}
    (hf : ∀ (R : σ → σ → Prop) (c c' : D.Cursor), D.SameRow R c c' → Attempt.Agree R (f c) (f c')) :
    (ofRead f : Mapper D α).OnlyReads :=
  onlyReads_of_agree fun R c c' h _ => (hf R c c' h).reword Halt.failed

theorem column_onlyReads (t : Target) (n : Nat) : (column t n : Mapper D _).OnlyReads :=
  ofRead_onlyReads fun _ _ _ h => h.getAs t n

theorem columns_onlyReads (cs : List (Nat × Target)) : (columns cs : Mapper D _).OnlyReads :=
  ofRead_onlyReads fun _ _ _ h => .mapM (fun (n, t) => (h.getAs t n).bind fun x => .pure (x.map t.toValue)) cs

theorem labelled_onlyReads (labels : List String) : (labelled labels : Mapper D _).OnlyReads := by
  refine ofRead_onlyReads fun R c c' h => .mapM ?_ labels
  intro label
  rw [h.columnIndex label]
  cases D.columnIndex _ label with
  | none   => exact .pure none
  | some n => exact (h.get n).bind fun v => .pure (some (n, v))

theorem labelledRow_onlyReads : (labelledRow : Mapper D _).OnlyReads := by
  refine ofRead_onlyReads ?_
  intro R c c' h
  rw [h.columnCount]
  refine .mapM ?_ _
  intro n
  rw [h.columnLabel n]
  exact (h.get n).bind fun v => .pure (_, v)

/-- A mapper that does not look at the row at all, and gives up on one row. -/
theorem numbering_onlyReads (row : Nat) (e : Halt Failure) :
    OnlyReads (D := D) fun k _ => if k = row then throw e else return k := by
  refine onlyReads_of_agree fun R c c' h k => ?_
  by_cases hk : k = row
  · simp only [if_pos hk]
    exact .throw e
  · simp only [if_neg hk]
    exact .pure k

theorem failingAt_onlyReads (row : Nat) (message : String) : (failingAt row message : Mapper D Nat).OnlyReads :=
  numbering_onlyReads row _

theorem abandoningAt_onlyReads (row : Nat) (text : String) : (abandoningAt row text : Mapper D Nat).OnlyReads :=
  numbering_onlyReads row _

theorem map_onlyReads {m : Mapper D α} (hm : m.OnlyReads) (f : α → β) : (m.map f).OnlyReads := by
  intro R c c' h k w w' hw
  unfold map
  rw [bind_pure_comp, bind_pure_comp, Attempt.map_apply, Attempt.map_apply, hm R c c' h k w w' hw]

end Mapper

end NamedSql
