import NamedSql.Driver.Basic

/-!
# `NamedSql.Driver.Lift` — a driver in a larger world

## Contents
- `Driver.lift`: a driver whose world is a part of a larger one.
- `Driver.sum`: two drivers over one world, side by side.
-/

namespace NamedSql.Driver

variable {σ τ : Type}

/-- A call on an object and a part of the world. -/
def liftCall {ο ε α : Type} (get : τ → σ) (put : σ → τ → τ) (x : Attempt (ο × σ) ε α) : Attempt (ο × τ) ε α :=
  x.within (fun (o, t) => (o, get t)) (fun (o, s) (_, t) => (o, put s t))

/-- A driver whose world is a part of a larger one, and which leaves the rest alone. -/
def lift (get : τ → σ) (put : σ → τ → τ) (D : Driver σ) : Driver τ where
  Connection      := D.Connection
  Statement       := D.Statement
  Cursor          := D.Cursor
  prepare sql k   := liftCall get put (D.prepare sql k)
  closeConnection := liftCall get put D.closeConnection
  discard c t     := put (D.discard c (get t)) t
  bind slot v     := liftCall get put (D.bind slot v)
  addBatch        := liftCall get put D.addBatch
  setMaxRows n    := liftCall get put (D.setMaxRows n)
  executeQuery    := liftCall get put D.executeQuery
  executeUpdate   := liftCall get put D.executeUpdate
  executeBatch    := liftCall get put D.executeBatch
  generatedKeys   := liftCall get put D.generatedKeys
  closeStatement  := liftCall get put D.closeStatement
  next            := liftCall get put D.next
  columnCount     := D.columnCount
  columnLabel     := D.columnLabel
  get c n         := (D.get c n).within get put
  closeCursor     := liftCall get put D.closeCursor
  rowsLeft        := D.rowsLeft
  rowsLeft_next {c c' w w'} h := by
    simp only [liftCall, Attempt.within_apply, Prod.mk.injEq] at h
    obtain ⟨hr, hc, _⟩ := h
    have hn : D.next.apply (c, get w) = (.ok true, (c', (D.next.apply (c, get w)).2.2)) :=
      Prod.ext hr (Prod.ext hc rfl)
    exact D.rowsLeft_next hn

/-- A call on whichever of two kinds of object there is. -/
def sumCall {ο π ε α β γ : Type} (f : α → γ) (g : β → γ) (x : Attempt (ο × σ) ε α) (y : Attempt (π × σ) ε β) :
    Attempt ((ο ⊕ π) × σ) ε γ :=
  .of fun
    | (.inl o, w) => let (r, o', w') := x.apply (o, w); (r.map f, .inl o', w')
    | (.inr p, w) => let (r, p', w') := y.apply (p, w); (r.map g, .inr p', w')

/-- Two drivers side by side: each object belongs to one of them. -/
def sum (D E : Driver σ) : Driver σ where
  Connection      := D.Connection ⊕ E.Connection
  Statement       := D.Statement ⊕ E.Statement
  Cursor          := D.Cursor ⊕ E.Cursor
  prepare sql k   := sumCall .inl .inr (D.prepare sql k) (E.prepare sql k)
  closeConnection := sumCall id id D.closeConnection E.closeConnection
  discard         := Sum.elim D.discard E.discard
  bind slot v     := sumCall id id (D.bind slot v) (E.bind slot v)
  addBatch        := sumCall id id D.addBatch E.addBatch
  setMaxRows n    := sumCall id id (D.setMaxRows n) (E.setMaxRows n)
  executeQuery    := sumCall .inl .inr D.executeQuery E.executeQuery
  executeUpdate   := sumCall id id D.executeUpdate E.executeUpdate
  executeBatch    := sumCall id id D.executeBatch E.executeBatch
  generatedKeys   := sumCall .inl .inr D.generatedKeys E.generatedKeys
  closeStatement  := sumCall id id D.closeStatement E.closeStatement
  next            := sumCall id id D.next E.next
  columnCount     := Sum.elim D.columnCount E.columnCount
  columnLabel     := Sum.elim D.columnLabel E.columnLabel
  get             := Sum.elim D.get E.get
  closeCursor     := sumCall id id D.closeCursor E.closeCursor
  rowsLeft        := Sum.elim D.rowsLeft E.rowsLeft
  rowsLeft_next {c c' w w'} h := by
    cases c with
    | inl o =>
      match hn : D.next.apply (o, w) with
      | (.ok b, (o', v)) =>
        simp [sumCall, Attempt.of, Attempt.apply, Except.map] at h hn
        simp [hn] at h
        obtain ⟨rfl, rfl, rfl⟩ := h
        exact D.rowsLeft_next (by simpa [Attempt.apply] using hn)
      | (.error f, s) =>
        simp [sumCall, Attempt.of, Attempt.apply, Except.map] at h hn
        simp [hn] at h
    | inr o =>
      match hn : E.next.apply (o, w) with
      | (.ok b, (o', v)) =>
        simp [sumCall, Attempt.of, Attempt.apply, Except.map] at h hn
        simp [hn] at h
        obtain ⟨rfl, rfl, rfl⟩ := h
        exact E.rowsLeft_next (by simpa [Attempt.apply] using hn)
      | (.error f, s) =>
        simp [sumCall, Attempt.of, Attempt.apply, Except.map] at h hn
        simp [hn] at h

end NamedSql.Driver
