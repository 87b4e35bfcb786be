import NamedSql.Proofs.Handle.Steps
import NamedSql.Statement.Basic

/-!
# `Proofs.Statement.Calls` — what the calls on a statement keep

The calls that bind values to a statement, or queue a batch entry, are made of the same two parts: a call on the
prepared statement, and, when something is wrong, the release of everything. What these two keep, the calls keep.

## Contents
- `Core.onHandle_ensures`: a step on the handle of a statement. `Core.prepare_of_ok`, `Core.prepare_of_error`,
  `Core.prepare_ensures`: how preparing ends.
- `Core.bindSlot_of_unprepared`, `bindSlot_of_ok`, `bindSlot_of_error`: how binding a value to a slot ends. By name and
  by number: `bind_eq_forM`, `bindAt_of_inRange`, `bindAt_of_not_inRange`.
- `Core.CallsKeep`: what holds between two calls, and what holds after one that failed; `CallsKeep.of_parts`.
-/

namespace NamedSql

variable {σ ε α : Type} {D : Driver σ}

namespace Core

theorem onHandle_apply (x : Attempt (Handle D × σ) ε α) (c : Core D) (w : σ) :
    (onHandle x).apply (c, w) = ((x.apply (c.handle, w)).1, { c with handle := (x.apply (c.handle, w)).2.1 },
      (x.apply (c.handle, w)).2.2) := rfl

theorem onHandle_ensures {x : Attempt (Handle D × σ) ε α} {P : Handle D × σ → Prop}
    {Q : α → Handle D × σ → Prop} {E : ε → Handle D × σ → Prop} (h : Attempt.Ensures P x Q E) :
    Attempt.Ensures (fun s => P (s.1.handle, s.2)) (onHandle x) (fun a s => Q a (s.1.handle, s.2))
      (fun e s => E e (s.1.handle, s.2)) := by
  rintro ⟨c, w⟩ hs
  have hend := h (c.handle, w) hs
  rw [onHandle_apply]
  match hx : x.apply (c.handle, w) with
  | (.ok a, k, w')    => rwa [hx] at hend
  | (.error e, k, w') => rwa [hx] at hend

section
variable {k k' : D.Connection} {text : String} {keys : KeyCapture} {w w' : σ}

theorem prepare_of_ok {st : D.Statement}
    (h : (D.prepare (Positional.ofNamed text).text keys).apply (k, w) = (.ok st, k', w')) :
    (prepare k text keys).apply w = (.ok ⟨text, Positional.ofNamed text, ⟨some k', some st, none⟩⟩, w') := by
  unfold prepare
  rw [Attempt.of_apply]
  simp only [Handle.prepare_ofConnection]
  rw [Handle.prepareNext_of_ok h]

/-- A refusal is told with the text as it was written, and the connection is let go. -/
theorem prepare_of_error {f : Failure}
    (h : (D.prepare (Positional.ofNamed text).text keys).apply (k, w) = (.error f, k', w')) :
    (prepare k text keys).apply w = (.error (.prepare text f), Handle.discard ⟨some k', none, none⟩ w') := by
  unfold prepare
  rw [Attempt.of_apply]
  simp only [Handle.prepare_ofConnection]
  rw [Handle.prepareNext_of_error h]
  rfl

end

/-- A statement that could not be prepared lets its handle go. -/
theorem prepare_ensures {k : D.Connection} {text : String} {keys : KeyCapture} {I P : Handle D × σ → Prop}
    {E : σ → Prop}
    (h : Attempt.Ensures I (Handle.prepareNext (Positional.ofNamed text).text keys) (fun _ => P)
      (fun _ s => E (s.1.discard s.2))) :
    Attempt.Ensures (fun w => I (Handle.ofConnection k, w)) (prepare k text keys) (fun c w => P (c.handle, w))
      (fun _ => E) := by
  intro w hw
  have hend := h (Handle.ofConnection k, w) hw
  rw [prepare, Attempt.of_apply]
  simp only [Handle.prepare_ofConnection]
  match hp : (Handle.prepareNext (Positional.ofNamed text).text keys).apply (Handle.ofConnection k, w) with
  | (.ok (), h, w')   =>
    rw [hp] at hend
    exact hend
  | (.error e, h, w') =>
    rw [hp] at hend
    exact hend

section
variable {c : Core D} {w w' : σ} {slot : Nat} {v : Value}

theorem bindSlot_of_unprepared (h : c.handle.statement = none) (name : String) (slot : Nat) (v : Value) (w : σ) :
    (bindSlot name slot v).apply (c, w) = (.error .statementClosed, c, w) := by
  obtain ⟨text, p, k, s, cursor⟩ := c
  obtain rfl : s = none := h
  rfl

theorem bindSlot_of_ok {text : String} {p : Positional} {k : Option D.Connection} {s s' : D.Statement}
    {cursor : Option D.Cursor} (h : (D.bind slot v).apply (s, w) = (.ok (), s', w')) (name : String) :
    (bindSlot name slot v).apply (⟨text, p, k, some s, cursor⟩, w)
      = (.ok (), ⟨text, p, k, some s', cursor⟩, w') := by
  unfold bindSlot
  rw [Attempt.bind_apply, onHandle_apply, Handle.onStatement_some, h]
  rfl

/-- What the driver refuses ends with the release of everything. -/
theorem bindSlot_of_error {text : String} {p : Positional} {k : Option D.Connection} {s s' : D.Statement}
    {cursor : Option D.Cursor} {f : Failure} (h : (D.bind slot v).apply (s, w) = (.error f, s', w'))
    (name : String) :
    (bindSlot name slot v).apply (⟨text, p, k, some s, cursor⟩, w)
      = (.error (.bind name v.display f),
          ⟨text, p, (Handle.cleanup.apply (⟨k, some s', cursor⟩, w')).2.1⟩,
          (Handle.cleanup.apply (⟨k, some s', cursor⟩, w')).2.2) := by
  unfold bindSlot
  rw [Attempt.bind_apply, onHandle_apply, Handle.onStatement_some, h]
  rfl

/-- A value for a name goes to the slots of the name, one after the other. -/
theorem bind_eq_forM (name : String) (v : Value) (c : Core D) (w : σ) :
    (bind name v).apply (c, w)
      = ((c.positional.slots name).forM fun slot => bindSlot name slot v).apply (c, w) := rfl

theorem bindAt_of_inRange (h : 1 ≤ slot ∧ slot ≤ c.positional.names.length) (v : Value) (w : σ) :
    (bindAt slot v).apply (c, w) = (bindSlot ("#" ++ toString slot) slot v).apply (c, w) := by
  unfold bindAt
  rw [Attempt.bind_apply, Attempt.get_apply]
  simp only [if_pos h]

theorem bindAt_of_not_inRange (h : ¬ (1 ≤ slot ∧ slot ≤ c.positional.names.length)) (v : Value) (w : σ) :
    (bindAt slot v).apply (c, w)
      = (giveUp (.bind ("#" ++ toString slot) v.display (.noSlot slot c.positional.names.length))).apply (c, w) := by
  unfold bindAt
  rw [Attempt.bind_apply, Attempt.get_apply]
  simp only [if_neg h]

end

/-- If `P` holds of a statement before a call, it still holds after the call, and if the call fails, `E` does. -/
structure CallsKeep (P E : Core D × σ → Prop) : Prop where
  bind (name : String) (v : Value) : Attempt.Ensures P (Core.bind name v) (fun _ => P) (fun _ => E)
  bindAt (slot : Nat) (v : Value) : Attempt.Ensures P (Core.bindAt slot v) (fun _ => P) (fun _ => E)
  addBatch : Attempt.Ensures P Core.addBatch (fun _ => P) (fun _ => E)

section
variable {P E : Core D × σ → Prop}

/-- The end of a call on the prepared statement, and of the call that it is a part of. -/
theorem onStatement_bind_ensures {x : Attempt (D.Statement × σ) Failure Unit} {e : Failure → Error}
    (hcall : Attempt.Ensures P (onHandle (Handle.onStatement x)) (fun _ => P) (fun _ => E))
    (hgiveUp : ∀ e, Attempt.Ensures P (giveUp e : Attempt _ Error Unit) (fun _ _ => False) (fun _ => E)) :
    Attempt.Ensures P (do match ← onHandle (Handle.onStatement x) with
      | .ok ()   => return ()
      | .error f => giveUp (e f)) (fun _ => P) (fun _ => E) := by
  refine Attempt.Ensures.bind hcall ?_
  intro r
  cases r with
  | ok u    => exact Attempt.Ensures.pure u fun _ hs => hs
  | error f => exact (hgiveUp _).mono (fun _ _ hfalse => hfalse.elim) fun _ _ h => h

/-- What the calls on the prepared statement keep, and the release of everything, the calls on a statement
    keep. -/
theorem CallsKeep.of_parts
    (hbind : ∀ slot v, Attempt.Ensures P (onHandle (Handle.onStatement (D.bind slot v))) (fun _ => P) (fun _ => E))
    (haddBatch : Attempt.Ensures P (onHandle (Handle.onStatement D.addBatch)) (fun _ => P) (fun _ => E))
    (hgiveUp : ∀ e, Attempt.Ensures P (giveUp e : Attempt _ Error Unit) (fun _ _ => False) (fun _ => E)) :
    CallsKeep P E where
  bind name v := by
    refine Attempt.Ensures.bind (Q := fun _ => P) (Attempt.Ensures.get fun _ hs => hs) ?_
    rintro ⟨c, w⟩
    exact Attempt.Ensures.forM _ fun slot => onStatement_bind_ensures (hbind slot v) hgiveUp
  bindAt slot v := by
    refine Attempt.Ensures.bind (Q := fun _ => P) (Attempt.Ensures.get fun _ hs => hs) ?_
    rintro ⟨c, w⟩
    show Attempt.Ensures _ (if _ then _ else _) _ _
    by_cases hrange : 1 ≤ slot ∧ slot ≤ c.positional.names.length
    · rw [if_pos hrange]
      exact onStatement_bind_ensures (hbind slot v) hgiveUp
    · rw [if_neg hrange]
      exact (hgiveUp _).mono (fun _ _ hfalse => hfalse.elim) fun _ _ h => h
  addBatch := by
    refine Attempt.Ensures.bind (Q := fun _ => P) (Attempt.Ensures.get fun _ hs => hs) ?_
    rintro ⟨c, w⟩
    exact onStatement_bind_ensures haddBatch hgiveUp

end

end Core

end NamedSql
