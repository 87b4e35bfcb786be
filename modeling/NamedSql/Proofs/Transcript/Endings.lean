import NamedSql.Proofs.Transcript.Handle

/-!
# `Proofs.Transcript.Endings` — what an operation on a handle leaves, in each way that it can end

A handle replaces its statement, or its cursor, in several steps, and each of them may fail. Where it fails decides
what is left: what was to be replaced is gone in any case, and nothing is asked of the driver behind the step that
failed.

## Contents
- `Depicts`: a relation that says all of what a step does; `Depicts.apply_iff`.
- **Closing.** `Closing` for one resource, `Releasing` for a handle; `cleanup_depicted`. `Closing.only_closes` and
  `Releasing.only_closes`: nothing is asked. `Releasing.nothing_left`. `Releasing.error_eq`: what is told of a release
  that fails.
- **Preparing.** `Preparing`, with a constructor for each way to end, and `prepare_depicted`.
- **Opening a cursor.** `Opening`, in the same way; `withCursor_of_opening`, `Opening.total`, and
  `withCursor_apply_iff` for the work with the cursor.
- `Handle.state_after_failure`.
-/

namespace NamedSql

namespace Transcript

variable {σ ε α ο S : Type} {D : Driver σ}

/-- A relation that says all of what a step does to an object and to the world, what it answers, and what it enters
    in the transcript. -/
structure Depicts (R : S → σ → Except ε α → S → σ → Transcript → Prop)
    (x : Attempt (S × σ × Transcript) ε α) : Prop where
  sound {s s' : S} {w w' : σ} {r : Except ε α} {steps : Transcript} :
    R s w r s' w' steps → ∀ T, x.apply (s, w, T) = (r, s', w', T ++ steps)
  total (s : S) (w : σ) : ∃ r s' w' steps, R s w r s' w' steps

theorem Depicts.apply_iff {R : S → σ → Except ε α → S → σ → Transcript → Prop}
    {x : Attempt (S × σ × Transcript) ε α} (h : Depicts R x) {s s' : S} {w w' : σ} {T T' : Transcript}
    {r : Except ε α} :
    x.apply (s, w, T) = (r, s', w', T') ↔ ∃ steps, T' = T ++ steps ∧ R s w r s' w' steps := by
  constructor
  · intro hend
    obtain ⟨r₁, s₁, w₁, steps, hR⟩ := h.total s w
    have hsame := (h.sound hR T).symm.trans hend
    simp only [Prod.mk.injEq] at hsame
    obtain ⟨rfl, rfl, rfl, rfl⟩ := hsame
    exact ⟨steps, rfl, hR⟩
  · rintro ⟨steps, rfl, hR⟩
    exact h.sound hR T

/-! ## Closing -/

/-- The close of a resource, if there is one. It is gone afterwards, also when it does not close. -/
inductive Closing (kind : Resource) (close : Attempt (ο × σ) Failure Unit) :
    Option ο → σ → Except Error Unit → σ → Transcript → Prop where
  | nothing {w : σ} : Closing kind close none w (.ok ()) w []
  | closed {o o' : ο} {w w' : σ} (h : close.apply (o, w) = (.ok (), o', w')) :
      Closing kind close (some o) w (.ok ()) w' [.closed kind none]
  | stuck {o o' : ο} {w w' : σ} {f : Failure} (h : close.apply (o, w) = (.error f, o', w')) :
      Closing kind close (some o) w (.error (.release kind f)) w' [.closed kind (some f)]

theorem Closing.total (kind : Resource) (close : Attempt (ο × σ) Failure Unit) (o : Option ο) (w : σ) :
    ∃ r w' steps, Closing kind close o w r w' steps := by
  cases o with
  | none   => exact ⟨_, _, _, .nothing⟩
  | some o =>
    match h : close.apply (o, w) with
    | (.ok (), o', w')   => exact ⟨_, _, _, .closed h⟩
    | (.error f, o', w') => exact ⟨_, _, _, .stuck h⟩

section
variable {h : Handle D.transcribed} {w w' : σ} {r : Except Error Unit} {steps : Transcript}

theorem closeCursor_of_closing (hc : Closing .cursor D.closeCursor h.cursor w r w' steps) (T : Transcript) :
    Handle.closeCursor.apply (h, w, T) = (r, { h with cursor := none }, w', T ++ steps) := by
  obtain ⟨k, st, c⟩ := h
  cases hc with
  | nothing      => rw [Handle.closeCursor_of_none rfl, List.append_nil]
  | closed hcall | stuck hcall =>
    simp only [Handle.closeCursor, Attempt.of_apply, noting_of_apply hcall]
    rfl

theorem closeStatement_of_closing (hs : Closing .statement D.closeStatement h.statement w r w' steps)
    (T : Transcript) :
    Handle.closeStatement.apply (h, w, T) = (r, { h with statement := none }, w', T ++ steps) := by
  obtain ⟨k, st, c⟩ := h
  cases hs with
  | nothing      => rw [Handle.closeStatement_of_none rfl, List.append_nil]
  | closed hcall | stuck hcall =>
    simp only [Handle.closeStatement, Attempt.of_apply, noting_of_apply hcall]
    rfl

theorem closeConnection_of_closing (hk : Closing .connection D.closeConnection h.connection w r w' steps)
    (T : Transcript) :
    Handle.closeConnection.apply (h, w, T) = (r, { h with connection := none }, w', T ++ steps) := by
  obtain ⟨k, st, c⟩ := h
  cases hk with
  | nothing      => simp [Handle.closeConnection]
  | closed hcall | stuck hcall =>
    simp only [Handle.closeConnection, Attempt.of_apply, noting_of_apply hcall]
    rfl

end

/-- The release of everything that a handle owns, cursor first and connection last. -/
inductive Releasing : Handle D.transcribed → σ → Except Error Unit → Handle D.transcribed → σ → Transcript → Prop where
  | all {h : Handle D.transcribed} {w w₁ w₂ w₃ : σ} {a b c : Except Error Unit} {T₁ T₂ T₃ : Transcript}
      (hcursor : Closing .cursor D.closeCursor h.cursor w a w₁ T₁)
      (hstatement : Closing .statement D.closeStatement h.statement w₁ b w₂ T₂)
      (hconnection : Closing .connection D.closeConnection h.connection w₂ c w₃ T₃) :
      Releasing h w (Handle.firstFailure a b c) ⟨none, none, none⟩ w₃ (T₁ ++ T₂ ++ T₃)

theorem cleanup_depicted :
    Depicts (Releasing (D := D)) (Handle.cleanup : Attempt (Handle D.transcribed × σ × Transcript) Error Unit) where
  sound := by
    rintro h _ w _ _ _ ⟨hcursor, hstatement, hconnection⟩ T
    unfold Handle.cleanup
    rw [Attempt.of_apply]
    simp only [closeCursor_of_closing hcursor, closeStatement_of_closing (h := { h with cursor := none }) hstatement,
      closeConnection_of_closing (h := { h with cursor := none, statement := none }) hconnection, List.append_assoc]
  total h w := by
    obtain ⟨a, w₁, T₁, hcursor⟩ := Closing.total .cursor D.closeCursor h.cursor w
    obtain ⟨b, w₂, T₂, hstatement⟩ := Closing.total .statement D.closeStatement h.statement w₁
    obtain ⟨c, w₃, T₃, hconnection⟩ := Closing.total .connection D.closeConnection h.connection w₂
    exact ⟨_, _, _, _, .all hcursor hstatement hconnection⟩

/-- There is nothing but closes in a close. -/
theorem Closing.only_closes {kind : Resource} {close : Attempt (ο × σ) Failure Unit} {o : Option ο} {w w' : σ}
    {r : Except Error Unit} {steps : Transcript} (h : Closing kind close o w r w' steps) :
    ∀ x ∈ steps, ∃ r f, x = .closed r f := by
  cases h with
  | nothing  => exact fun x hx => absurd hx List.not_mem_nil
  | closed h => exact fun x hx => ⟨kind, none, List.mem_singleton.mp hx⟩
  | stuck h  => exact fun x hx => ⟨kind, some _, List.mem_singleton.mp hx⟩

theorem Releasing.only_closes {h h' : Handle D.transcribed} {w w' : σ} {r : Except Error Unit} {steps : Transcript}
    (hr : Releasing h w r h' w' steps) : ∀ x ∈ steps, ∃ r f, x = .closed r f := by
  obtain ⟨hcursor, hstatement, hconnection⟩ := hr
  intro x hx
  rcases List.mem_append.mp hx with hx | hx
  · rcases List.mem_append.mp hx with hx | hx
    · exact hcursor.only_closes x hx
    · exact hstatement.only_closes x hx
  · exact hconnection.only_closes x hx

theorem Releasing.nothing_left {h h' : Handle D.transcribed} {w w' : σ} {r : Except Error Unit} {steps : Transcript}
    (hr : Releasing h w r h' w' steps) : h' = ⟨none, none, none⟩ := by
  cases hr with
  | all hcursor hstatement hconnection => rfl

/-- What is told of a release that fails is which resource does not close. -/
theorem Closing.error_eq {kind : Resource} {close : Attempt (ο × σ) Failure Unit} {o : Option ο} {w w' : σ} {e : Error}
    {steps : Transcript} (h : Closing kind close o w (.error e) w' steps) : ∃ f, e = .release kind f := by
  cases h with
  | stuck h => exact ⟨_, rfl⟩

theorem Releasing.error_eq {h h' : Handle D.transcribed} {w w' : σ} {e : Error} {steps : Transcript}
    (hr : Releasing h w (.error e) h' w' steps) : ∃ kind f, e = .release kind f := by
  generalize hreleased : (Except.error e : Except Error Unit) = released at hr
  cases hr with
  | @all _ _ _ a b c _ _ _ hcursor hstatement hconnection =>
    -- The first close that fails is the one that is told.
    match a, b, c with
    | .error _, _, _         =>
      obtain rfl := Except.error.inj hreleased
      exact ⟨.cursor, hcursor.error_eq⟩
    | .ok _, .error _, _     =>
      obtain rfl := Except.error.inj hreleased
      exact ⟨.statement, hstatement.error_eq⟩
    | .ok _, .ok _, .error _ =>
      obtain rfl := Except.error.inj hreleased
      exact ⟨.connection, hconnection.error_eq⟩
    | .ok _, .ok _, .ok _    => exact absurd hreleased (by simp [Handle.firstFailure])

/-! ## Preparing -/

/-- The ways in which preparing a statement can end, and what each of them leaves. -/
inductive Preparing (sql : String) (keys : KeyCapture) :
    Handle D.transcribed → σ → Except Error Unit → Handle D.transcribed → σ → Transcript → Prop where
  /-- The cursor of before does not close: it is given up, and the rest stays as it is. -/
  | cursorStuck {k : Option D.Connection} {s : Option D.Statement} {c c' : D.Cursor} {w w' : σ} {f : Failure}
      (hc : D.closeCursor.apply (c, w) = (.error f, c', w')) :
      Preparing sql keys ⟨k, s, some c⟩ w (.error (.release .cursor f)) ⟨k, s, none⟩ w' [.closed .cursor (some f)]
  /-- The statement of before does not close: cursor and statement are gone, and the connection stays. -/
  | statementStuck {k : Option D.Connection} {s s' : D.Statement} {c : Option D.Cursor} {w w₁ w' : σ} {f : Failure}
      {T : Transcript} (hc : Closing .cursor D.closeCursor c w (.ok ()) w₁ T)
      (hs : D.closeStatement.apply (s, w₁) = (.error f, s', w')) :
      Preparing sql keys ⟨k, some s, c⟩ w (.error (.release .statement f)) ⟨k, none, none⟩ w'
        (T ++ [.closed .statement (some f)])
  /-- There is no connection to prepare on. -/
  | unconnected {s : Option D.Statement} {c : Option D.Cursor} {w w₁ w₂ : σ} {T₁ T₂ : Transcript}
      (hc : Closing .cursor D.closeCursor c w (.ok ()) w₁ T₁)
      (hs : Closing .statement D.closeStatement s w₁ (.ok ()) w₂ T₂) :
      Preparing sql keys ⟨none, s, c⟩ w (.error .statementClosed) ⟨none, none, none⟩ w₂ (T₁ ++ T₂)
  /-- The driver refuses the statement: what was to be replaced is gone, and the connection stays. -/
  | refused {k k' : D.Connection} {s : Option D.Statement} {c : Option D.Cursor} {w w₁ w₂ w' : σ} {f : Failure}
      {T₁ T₂ : Transcript} (hc : Closing .cursor D.closeCursor c w (.ok ()) w₁ T₁)
      (hs : Closing .statement D.closeStatement s w₁ (.ok ()) w₂ T₂)
      (hp : (D.prepare sql keys).apply (k, w₂) = (.error f, k', w')) :
      Preparing sql keys ⟨some k, s, c⟩ w (.error (.prepare sql f)) ⟨some k', none, none⟩ w'
        (T₁ ++ T₂ ++ [.asked (.prepare sql keys) (some f)])
  | prepared {k k' : D.Connection} {s : Option D.Statement} {c : Option D.Cursor} {st : D.Statement}
      {w w₁ w₂ w' : σ} {T₁ T₂ : Transcript} (hc : Closing .cursor D.closeCursor c w (.ok ()) w₁ T₁)
      (hs : Closing .statement D.closeStatement s w₁ (.ok ()) w₂ T₂)
      (hp : (D.prepare sql keys).apply (k, w₂) = (.ok st, k', w')) :
      Preparing sql keys ⟨some k, s, c⟩ w (.ok ()) ⟨some k', some st, none⟩ w'
        (T₁ ++ T₂ ++ [.asked (.prepare sql keys) none])

section
variable {sql : String} {keys : KeyCapture} {h : Handle D.transcribed} {w w₁ w₂ : σ} {T₁ T₂ : Transcript}

theorem prepare_of_cursorStuck {e : Error} (hc : Closing .cursor D.closeCursor h.cursor w (.error e) w₁ T₁)
    (T : Transcript) :
    (Handle.prepare sql keys).apply (h, w, T) = (.error e, { h with cursor := none }, w₁, T ++ T₁) :=
  Attempt.bind_of_error (closeCursor_of_closing hc T) _

theorem prepare_of_statementStuck {e : Error} (hc : Closing .cursor D.closeCursor h.cursor w (.ok ()) w₁ T₁)
    (hs : Closing .statement D.closeStatement h.statement w₁ (.error e) w₂ T₂) (T : Transcript) :
    (Handle.prepare sql keys).apply (h, w, T)
      = (.error e, { h with cursor := none, statement := none }, w₂, T ++ (T₁ ++ T₂)) := by
  unfold Handle.prepare
  rw [Attempt.bind_apply, closeCursor_of_closing hc T, ← List.append_assoc]
  exact Attempt.bind_of_error (closeStatement_of_closing (h := { h with cursor := none }) hs (T ++ T₁)) _

/-- What was to be replaced is closed, and the rest is up to the connection. -/
theorem prepare_of_closed (hc : Closing .cursor D.closeCursor h.cursor w (.ok ()) w₁ T₁)
    (hs : Closing .statement D.closeStatement h.statement w₁ (.ok ()) w₂ T₂) (T : Transcript) :
    (Handle.prepare sql keys).apply (h, w, T)
      = (Handle.prepareNext sql keys).apply ({ h with cursor := none, statement := none }, w₂, T ++ (T₁ ++ T₂)) := by
  unfold Handle.prepare
  rw [Attempt.bind_apply, closeCursor_of_closing hc T]
  simp only
  rw [Attempt.bind_apply, closeStatement_of_closing (h := { h with cursor := none }) hs (T ++ T₁),
    ← List.append_assoc]

end

theorem prepare_depicted (sql : String) (keys : KeyCapture) :
    Depicts (Preparing (D := D) sql keys)
      (Handle.prepare sql keys : Attempt (Handle D.transcribed × σ × Transcript) Error Unit) where
  sound := by
    intro h h' w w' r steps hend T
    cases hend with
    | cursorStuck hc       => exact prepare_of_cursorStuck (.stuck hc) T
    | statementStuck hc hs => exact prepare_of_statementStuck hc (.stuck hs) T
    | unconnected hc hs    => exact prepare_of_closed hc hs T
    | refused hc hs hp     =>
      rw [← List.append_assoc, prepare_of_closed hc hs T]
      exact Handle.prepareNext_of_error (D := D.transcribed) (noting_of_apply hp _ _) none none
    | prepared hc hs hp    =>
      rw [← List.append_assoc, prepare_of_closed hc hs T]
      exact Handle.prepareNext_of_ok (D := D.transcribed) (noting_of_apply hp _ _) none none
  total := by
    rintro ⟨k, s, c⟩ w
    -- The steps are taken in turn; one that fails is the last.
    obtain ⟨a, w₁, T₁, hc⟩ := Closing.total .cursor D.closeCursor c w
    cases a with
    | error e =>
      cases hc with
      | stuck hcall => exact ⟨_, _, _, _, .cursorStuck hcall⟩
    | ok u    =>
      obtain ⟨b, w₂, T₂, hs⟩ := Closing.total .statement D.closeStatement s w₁
      cases b with
      | error e =>
        cases hs with
        | stuck hcall => exact ⟨_, _, _, _, .statementStuck hc hcall⟩
      | ok u    =>
        cases k with
        | none   => exact ⟨_, _, _, _, .unconnected hc hs⟩
        | some k =>
          match hp : (D.prepare sql keys).apply (k, w₂) with
          | (.error f, k', w') => exact ⟨_, _, _, _, .refused hc hs hp⟩
          | (.ok st, k', w')   => exact ⟨_, _, _, _, .prepared hc hs hp⟩

/-! ## Opening a cursor -/

/-- The ways in which opening a cursor can end, and what each of them leaves. The cursor that was opened is not yet
    in the handle. -/
inductive Opening (q : Request) (opening : Attempt (D.Statement × σ) Failure D.Cursor) :
    Handle D.transcribed → σ → Except Failure D.Cursor → Handle D.transcribed → σ → Transcript → Prop where
  /-- The cursor of before does not close: it is given up, the rest stays, and the statement is not asked. -/
  | cursorStuck {k : Option D.Connection} {s : Option D.Statement} {c c' : D.Cursor} {w w' : σ} {f : Failure}
      (hc : D.closeCursor.apply (c, w) = (.error f, c', w')) :
      Opening q opening ⟨k, s, some c⟩ w (.error (.error (.release .cursor f))) ⟨k, s, none⟩ w'
        [.closed .cursor (some f)]
  /-- There is no statement to ask. -/
  | unprepared {k : Option D.Connection} {c : Option D.Cursor} {w w' : σ} {T : Transcript}
      (hc : Closing .cursor D.closeCursor c w (.ok ()) w' T) :
      Opening q opening ⟨k, none, c⟩ w (.error (.error .statementClosed)) ⟨k, none, none⟩ w' T
  /-- The statement opens none: the cursor of before is gone, statement and connection stay. -/
  | refused {k : Option D.Connection} {s s' : D.Statement} {c : Option D.Cursor} {w w₁ w' : σ} {f : Failure}
      {T : Transcript} (hc : Closing .cursor D.closeCursor c w (.ok ()) w₁ T)
      (ho : opening.apply (s, w₁) = (.error f, s', w')) :
      Opening q opening ⟨k, some s, c⟩ w (.error f) ⟨k, some s', none⟩ w' (T ++ [.asked q (some f)])
  | opened {k : Option D.Connection} {s s' : D.Statement} {c : Option D.Cursor} {new : D.Cursor} {w w₁ w' : σ}
      {T : Transcript} (hc : Closing .cursor D.closeCursor c w (.ok ()) w₁ T)
      (ho : opening.apply (s, w₁) = (.ok new, s', w')) :
      Opening q opening ⟨k, some s, c⟩ w (.ok new) ⟨k, some s', none⟩ w' (T ++ [.asked q none])

theorem Opening.total (q : Request) (opening : Attempt (D.Statement × σ) Failure D.Cursor)
    (h : Handle D.transcribed) (w : σ) : ∃ r h' w' steps, Opening q opening h w r h' w' steps := by
  obtain ⟨k, s, c⟩ := h
  obtain ⟨a, w₁, T, hc⟩ := Closing.total .cursor D.closeCursor c w
  cases a with
  | error e =>
    cases hc with
    | stuck hcall => exact ⟨_, _, _, _, .cursorStuck hcall⟩
  | ok u    =>
    cases s with
    | none   => exact ⟨_, _, _, _, .unprepared hc⟩
    | some s =>
      match ho : opening.apply (s, w₁) with
      | (.error f, s', w') => exact ⟨_, _, _, _, .refused hc ho⟩
      | (.ok new, s', w')  => exact ⟨_, _, _, _, .opened hc ho⟩

/-- What becomes of the work with a cursor: it is done if a cursor was opened, and not begun otherwise. -/
def continued (wrap : Failure → ε) (work : Attempt (D.Cursor × σ × Transcript) ε α) :
    Except Failure D.Cursor → Handle D.transcribed × σ × Transcript → Except ε α × Handle D.transcribed × σ × Transcript
  | .error f, s => (.error (wrap f), s)
  | .ok c,    s => (Handle.keepCursor (D := D.transcribed) work c).apply s

section
variable {q : Request} {opening : Attempt (D.Statement × σ) Failure D.Cursor} {wrap : Failure → ε}
  {work : Attempt (D.Cursor × σ × Transcript) ε α} {h h' : Handle D.transcribed} {w w' : σ}
  {r : Except Failure D.Cursor} {steps : Transcript}

theorem withCursor_of_closed {w₁ : σ} {T₁ : Transcript}
    (hc : Closing .cursor D.closeCursor h.cursor w (.ok ()) w₁ T₁) (T : Transcript) :
    (Handle.withCursor (D := D.transcribed) wrap (noting (.asked q) opening) work).apply (h, w, T)
      = (Handle.openCursor (D := D.transcribed) wrap (noting (.asked q) opening) work).apply
          ({ h with cursor := none }, w₁, T ++ T₁) := by
  unfold Handle.withCursor
  rw [Attempt.bind_apply, Attempt.reword_apply, closeCursor_of_closing hc T]
  rfl

theorem openCursor_of_apply {s s' : D.Statement} (ho : opening.apply (s, w) = (r, s', w')) (k : Option D.Connection)
    (T : Transcript) :
    (Handle.openCursor (D := D.transcribed) wrap (noting (.asked q) opening) work).apply (⟨k, some s, none⟩, w, T)
      = continued wrap work r (⟨k, some s', none⟩, w', T ++ [.asked q (failureOf r)]) := by
  unfold Handle.openCursor
  rw [Attempt.bind_apply, Attempt.reword_apply,
    Handle.call_of_apply (D := D.transcribed) (noting_of_apply ho (.asked q) T)]
  cases r with
  | ok c    => rfl
  | error f => rfl

theorem withCursor_of_opening (ho : Opening q opening h w r h' w' steps) (T : Transcript) :
    (Handle.withCursor (D := D.transcribed) wrap (noting (.asked q) opening) work).apply (h, w, T)
      = continued wrap work r (h', w', T ++ steps) := by
  cases ho with
  | @cursorStuck k s c _ _ _ _ hc =>
    unfold Handle.withCursor
    rw [Attempt.bind_apply, Attempt.reword_apply,
      closeCursor_of_closing (h := (⟨k, s, some c⟩ : Handle D.transcribed)) (.stuck hc) T]
    rfl
  | @unprepared k c _ _ _ hc =>
    exact withCursor_of_closed (h := (⟨k, none, c⟩ : Handle D.transcribed)) hc T
  | @refused k s _ c _ _ _ _ _ hc ho =>
    rw [withCursor_of_closed (h := (⟨k, some s, c⟩ : Handle D.transcribed)) hc T, ← List.append_assoc]
    exact openCursor_of_apply ho k _
  | @opened k s _ c _ _ _ _ _ hc ho =>
    rw [withCursor_of_closed (h := (⟨k, some s, c⟩ : Handle D.transcribed)) hc T, ← List.append_assoc]
    exact openCursor_of_apply ho k _

theorem withCursor_apply_iff {T : Transcript}
    {s : Except ε α × Handle D.transcribed × σ × Transcript} :
    (Handle.withCursor (D := D.transcribed) wrap (noting (.asked q) opening) work).apply (h, w, T) = s
      ↔ ∃ r h' w' steps, Opening q opening h w r h' w' steps ∧ continued wrap work r (h', w', T ++ steps) = s := by
  constructor
  · intro hend
    obtain ⟨r, h', w', steps, ho⟩ := Opening.total q opening h w
    exact ⟨r, h', w', steps, ho, (withCursor_of_opening ho T).symm.trans hend⟩
  · rintro ⟨r, h', w', steps, ho, hend⟩
    exact (withCursor_of_opening ho T).trans hend

end

end Transcript

namespace Handle

open Transcript

variable {σ : Type}

/-- **Where an operation fails decides what it leaves.** Whatever a handle holds: preparing ends in one of the ways of
    `Preparing`, and opening a cursor in one of those of `Opening`, with the answer, the handle and the steps that go
    with it. After a refusal the next statement is prepared on the connection at once. A handle without a statement is
    not changed by a call on it, and a release leaves nothing, whatever does not close. -/
theorem state_after_failure (D : Driver σ) (w : σ) (T : Transcript) :
    (∀ (h : Handle D.transcribed) (sql : String) (keys : KeyCapture) (r : Except Error Unit)
        (h' : Handle D.transcribed) (w' : σ) (T' : Transcript),
      (prepare sql keys).apply (h, w, T) = (r, h', w', T')
        ↔ ∃ steps, T' = T ++ steps ∧ Preparing sql keys h w r h' w' steps)
    ∧ (∀ {ε α : Type} (h : Handle D.transcribed) (wrap : Failure → ε)
        (work : Attempt (D.Cursor × σ × Transcript) ε α) (s : Except ε α × Handle D.transcribed × σ × Transcript),
      ((withQuery (D := D.transcribed) wrap work).apply (h, w, T) = s
        ↔ ∃ r h' w' steps, Opening .executeQuery D.executeQuery h w r h' w' steps
          ∧ continued wrap work r (h', w', T ++ steps) = s)
      ∧ ((withKeys (D := D.transcribed) wrap work).apply (h, w, T) = s
        ↔ ∃ r h' w' steps, Opening .generatedKeys D.generatedKeys h w r h' w' steps
          ∧ continued wrap work r (h', w', T ++ steps) = s))
    ∧ (∀ (k : D.Connection) (sql : String) (keys : KeyCapture),
      ((prepare (D := D.transcribed) sql keys).apply (⟨some k, none, none⟩, w, T)).2.2
        = (((D.prepare sql keys).apply (k, w)).2.2,
          T ++ [.asked (.prepare sql keys) (failureOf ((D.prepare sql keys).apply (k, w)).1)]))
    ∧ (∀ {α : Type} (k : Option D.Connection) (c : Option D.Cursor)
        (use : Attempt (D.Statement × σ × Transcript) Failure α),
      (onStatement (D := D.transcribed) use).apply (⟨k, none, c⟩, w, T)
        = (.error .statementClosed, ⟨k, none, c⟩, w, T))
    ∧ (∀ (h : Handle D.transcribed) (r : Except Error Unit) (h' : Handle D.transcribed) (w' : σ) (T' : Transcript),
      cleanup.apply (h, w, T) = (r, h', w', T') ↔ ∃ steps, T' = T ++ steps ∧ Releasing h w r h' w' steps) := by
  refine ⟨?preparing, ?opening, ?again, ?unprepared, ?releasing⟩
  case preparing =>
    intro h sql keys r h' w' T'
    exact (prepare_depicted sql keys).apply_iff
  case opening =>
    intro ε α h wrap work s
    exact ⟨withCursor_apply_iff, withCursor_apply_iff⟩
  case again =>
    intro k sql keys
    rw [show (⟨some k, none, none⟩ : Handle D.transcribed) = ofConnection (D := D.transcribed) k from rfl,
      prepare_ofConnection (D := D.transcribed)]
    match hp : (D.prepare sql keys).apply (k, w) with
    | (.error f, k', w') =>
      rw [prepareNext_of_error (D := D.transcribed) (noting_of_apply hp _ T)]
    | (.ok st, k', w')   =>
      rw [prepareNext_of_ok (D := D.transcribed) (noting_of_apply hp _ T)]
  case unprepared =>
    intro α k c use
    rfl
  case releasing =>
    intro h r h' w' T'
    exact cleanup_depicted.apply_iff

end Handle

end NamedSql
