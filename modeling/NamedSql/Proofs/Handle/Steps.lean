import NamedSql.Handle
import NamedSql.Proofs.Attempt.Ensures

/-!
# `Proofs.Handle.Steps` — the steps of a handle, case by case

## Contents
- **Closing.** `closeCursor_of_none`, `closeStatement_of_none`; `cleanup_empty`.
- **Preparing.** `prepareNext_of_ok`, `prepareNext_of_error`; `prepare_ofConnection` for the first statement of
  a handle.
- **Working.** `onStatement_some`, `call_of_apply`; `withCursor_of_none` where no cursor is open,
  `withCursor_of_error` if none can be opened, and `withCursor_of_ok` if one can.
-/

namespace NamedSql.Handle

variable {σ ε α : Type} {D : Driver σ}

/-! ## Closing -/

theorem closeCursor_of_none {h : Handle D} (hc : h.cursor = none) (w : σ) :
    closeCursor.apply (h, w) = (.ok (), h, w) := by
  simp [closeCursor, hc]

theorem closeStatement_of_none {h : Handle D} (hs : h.statement = none) (w : σ) :
    closeStatement.apply (h, w) = (.ok (), h, w) := by
  simp [closeStatement, hs]

theorem cleanup_empty {s : Handle D × σ} (h : s.1 = ⟨none, none, none⟩) : (cleanup.apply s).2 = s := by
  obtain ⟨k, w⟩ := s
  obtain rfl : k = ⟨none, none, none⟩ := h
  rfl

/-! ## Preparing -/

theorem prepareNext_of_ok {k k' : D.Connection} {st : D.Statement} {w w' : σ} {sql : String} {keys : KeyCapture}
    (h : (D.prepare sql keys).apply (k, w) = (.ok st, k', w')) (s : Option D.Statement) (c : Option D.Cursor) :
    (prepareNext sql keys).apply (⟨some k, s, c⟩, w) = (.ok (), ⟨some k', some st, c⟩, w') := by
  simp [prepareNext, h]

theorem prepareNext_of_error {k k' : D.Connection} {f : Failure} {w w' : σ} {sql : String} {keys : KeyCapture}
    (h : (D.prepare sql keys).apply (k, w) = (.error f, k', w')) (s : Option D.Statement)
    (c : Option D.Cursor) :
    (prepareNext sql keys).apply (⟨some k, s, c⟩, w) = (.error (.prepare sql f), ⟨some k', s, c⟩, w') := by
  simp [prepareNext, h]

theorem prepare_ofConnection (k : D.Connection) (w : σ) (sql : String) (keys : KeyCapture) :
    (prepare sql keys).apply (ofConnection k, w) = (prepareNext sql keys).apply (⟨some k, none, none⟩, w) := by
  unfold prepare
  rw [Attempt.bind_apply, closeCursor_of_none rfl]
  simp only
  rw [Attempt.bind_apply, closeStatement_of_none rfl]
  rfl

/-! ## Working -/

theorem onStatement_some (x : Attempt (D.Statement × σ) Failure α) (k : Option D.Connection) (st : D.Statement)
    (c : Option D.Cursor) (w : σ) :
    (onStatement x).apply (⟨k, some st, c⟩, w)
      = (.ok (x.apply (st, w)).1, ⟨k, some (x.apply (st, w)).2.1, c⟩, (x.apply (st, w)).2.2) := rfl

theorem call_of_apply {x : Attempt (D.Statement × σ) Failure α} {st st' : D.Statement} {w w' : σ}
    {r : Except Failure α} (h : x.apply (st, w) = (r, st', w')) (k : Option D.Connection) (c : Option D.Cursor) :
    (call x).apply (⟨k, some st, c⟩, w) = (r, ⟨k, some st', c⟩, w') := by
  unfold call
  rw [Attempt.bind_apply, Attempt.reword_apply, onStatement_some, h]
  cases r with
  | ok a    => rfl
  | error f => rfl

/-- Where no cursor is open, none is closed before a new one is opened. -/
theorem withCursor_of_none (wrap : Failure → ε) (opening : Attempt (D.Statement × σ) Failure D.Cursor)
    (work : Attempt (D.Cursor × σ) ε α) {h : Handle D} (hc : h.cursor = none) (w : σ) :
    (withCursor wrap opening work).apply (h, w) = (openCursor wrap opening work).apply (h, w) := by
  unfold withCursor
  rw [Attempt.bind_apply, Attempt.reword_apply, closeCursor_of_none hc]
  rfl

theorem withCursor_of_error {opening : Attempt (D.Statement × σ) Failure D.Cursor} {st st' : D.Statement}
    {w w' : σ} {f : Failure} (h : opening.apply (st, w) = (.error f, st', w')) (wrap : Failure → ε)
    (work : Attempt (D.Cursor × σ) ε α) (k : Option D.Connection) :
    (withCursor wrap opening work).apply (⟨k, some st, none⟩, w)
      = (.error (wrap f), ⟨k, some st', none⟩, w') := by
  rw [withCursor_of_none wrap opening work rfl]
  unfold openCursor
  rw [Attempt.bind_apply, Attempt.reword_apply, call_of_apply h]
  rfl

theorem withCursor_of_ok {opening : Attempt (D.Statement × σ) Failure D.Cursor} {st st' : D.Statement}
    {c c' : D.Cursor} {w w' w'' : σ} {work : Attempt (D.Cursor × σ) ε α} {r : Except ε α}
    (h : opening.apply (st, w) = (.ok c, st', w')) (hwork : work.apply (c, w') = (r, c', w'')) (wrap : Failure → ε)
    (k : Option D.Connection) :
    (withCursor wrap opening work).apply (⟨k, some st, none⟩, w) = (r, ⟨k, some st', some c'⟩, w'') := by
  rw [withCursor_of_none wrap opening work rfl]
  unfold openCursor
  rw [Attempt.bind_apply, Attempt.reword_apply, call_of_apply h]
  show (keepCursor work c).apply (⟨k, some st', none⟩, w') = _
  unfold keepCursor
  rw [Attempt.of_apply]
  simp only [hwork]

end NamedSql.Handle
