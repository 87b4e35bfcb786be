import NamedSql.Proofs.Statement.Calls
import NamedSql.Proofs.Transcript.Endings
import NamedSql.Statement.Select
import NamedSql.Statement.Update

/-!
# `Proofs.Transcript.Operations` — what an operation does, from what its parts do

A run of a statement asks the statement for something, opens a cursor, reads it, and releases everything. What all of
this does is put together here from what each part does.

## Contents
- `Then`, for two steps in a row: `Depicts.bind`. `Mapping`, for a step whose result is worked on: `Depicts.map`, and
  `Mapping.ok_iff` for one that succeeds.
- `Asking`, for a call on the prepared statement: `call_depicted`, and `bareCall_depicted` where its failures are told
  as they are.
- `Passing`, for a pass over the rows of a cursor: `passing_depicted`.
- `Working`, for the work with a cursor that is opened for it: `withCursor_depicted`.
- `Finishing`, for an operation and the release after it: `finish_depicted`, `Finishing.released`, and
  `spent_apply_iff` for a statement that is used up by it. `fst_eq_iff`: what it answers.
- `Running` for the run of a query, with `run_apply_iff`; `Updating` for that of an update, with `update_run_apply_iff`.
-/

namespace NamedSql

namespace Transcript

variable {σ ε ε' α β S : Type} {D : Driver σ}

/-! ## Steps in a row -/

/-- A step, and then another one. If the first fails, the second is not taken. -/
inductive Then (R : S → σ → Except ε α → S → σ → Transcript → Prop)
    (R' : α → S → σ → Except ε β → S → σ → Transcript → Prop) :
    S → σ → Except ε β → S → σ → Transcript → Prop where
  | failed {s s' : S} {w w' : σ} {e : ε} {steps : Transcript} (h : R s w (.error e) s' w' steps) :
      Then R R' s w (.error e) s' w' steps
  | both {s s₁ s' : S} {w w₁ w' : σ} {a : α} {r : Except ε β} {T₁ T₂ : Transcript} (h : R s w (.ok a) s₁ w₁ T₁)
      (h' : R' a s₁ w₁ r s' w' T₂) : Then R R' s w r s' w' (T₁ ++ T₂)

theorem Depicts.bind {R : S → σ → Except ε α → S → σ → Transcript → Prop}
    {R' : α → S → σ → Except ε β → S → σ → Transcript → Prop} {x : Attempt (S × σ × Transcript) ε α}
    {f : α → Attempt (S × σ × Transcript) ε β} (hx : Depicts R x) (hf : ∀ a, Depicts (R' a) (f a)) :
    Depicts (Then R R') (x >>= f) where
  sound := by
    intro s s' w w' r steps h T
    cases h with
    | failed h  => exact Attempt.bind_of_error (hx.sound h T) f
    | both h h' =>
      rw [Attempt.bind_apply, hx.sound h T, ← List.append_assoc]
      exact (hf _).sound h' _
  total s w := by
    obtain ⟨r, s₁, w₁, T₁, h⟩ := hx.total s w
    cases r with
    | error e => exact ⟨_, _, _, _, .failed h⟩
    | ok a    =>
      obtain ⟨r, s', w', T₂, h'⟩ := (hf a).total s₁ w₁
      exact ⟨_, _, _, _, .both h h'⟩

/-- A step whose result is worked on. -/
inductive Mapping (g : α → β) (R : S → σ → Except ε α → S → σ → Transcript → Prop) :
    S → σ → Except ε β → S → σ → Transcript → Prop where
  | of {s s' : S} {w w' : σ} {r : Except ε α} {steps : Transcript} (h : R s w r s' w' steps) :
      Mapping g R s w (r.map g) s' w' steps

theorem Depicts.map {R : S → σ → Except ε α → S → σ → Transcript → Prop} {x : Attempt (S × σ × Transcript) ε α}
    (hx : Depicts R x) (g : α → β) : Depicts (Mapping g R) (x >>= fun a => pure (g a)) where
  sound := by
    intro s s' w w' r steps hend T
    cases hend with
    | of h => rw [bind_pure_comp, Attempt.map_apply, hx.sound h T]
  total s w := by
    obtain ⟨r, s', w', steps, h⟩ := hx.total s w
    exact ⟨_, _, _, _, .of h⟩

theorem Mapping.ok_iff {g : α → β} {R : S → σ → Except ε α → S → σ → Transcript → Prop} {s s' : S} {w w' : σ} {b : β}
    {steps : Transcript} : Mapping g R s w (.ok b) s' w' steps ↔ ∃ a, R s w (.ok a) s' w' steps ∧ g a = b := by
  constructor
  · intro hend
    generalize hb : (Except.ok b : Except ε β) = r' at hend
    cases hend with
    | @of _ _ _ r _ h =>
      obtain ⟨a, rfl, rfl⟩ := Attempt.exists_of_map_ok hb.symm
      exact ⟨a, h, rfl⟩
  · rintro ⟨a, h, rfl⟩
    exact Mapping.of h

/-! ## Calls on the statement -/

/-- A call on the prepared statement, if there is one. -/
inductive Asking (wrap : Failure → ε) (q : Request) (call : Attempt (D.Statement × σ) Failure α) :
    Handle D.transcribed → σ → Except ε α → Handle D.transcribed → σ → Transcript → Prop where
  | unprepared {k : Option D.Connection} {c : Option D.Cursor} {w : σ} :
      Asking wrap q call ⟨k, none, c⟩ w (.error (wrap (.error .statementClosed))) ⟨k, none, c⟩ w []
  | refused {k : Option D.Connection} {s s' : D.Statement} {c : Option D.Cursor} {w w' : σ} {f : Failure}
      (h : call.apply (s, w) = (.error f, s', w')) :
      Asking wrap q call ⟨k, some s, c⟩ w (.error (wrap f)) ⟨k, some s', c⟩ w' [.asked q (some f)]
  | answered {k : Option D.Connection} {s s' : D.Statement} {c : Option D.Cursor} {w w' : σ} {a : α}
      (h : call.apply (s, w) = (.ok a, s', w')) :
      Asking wrap q call ⟨k, some s, c⟩ w (.ok a) ⟨k, some s', c⟩ w' [.asked q none]

theorem call_depicted (wrap : Failure → ε) (q : Request) (call : Attempt (D.Statement × σ) Failure α) :
    Depicts (Asking wrap q call) ((Handle.call (D := D.transcribed) (noting (.asked q) call)).reword wrap) where
  sound := by
    intro h h' w w' r steps hend T
    rw [Attempt.reword_apply]
    cases hend with
    | unprepared =>
      rw [List.append_nil]
      rfl
    | refused hcall | answered hcall =>
      rw [Handle.call_of_apply (D := D.transcribed) (noting_of_apply hcall (.asked q) T)]
      rfl
  total := by
    rintro ⟨k, s, c⟩ w
    cases s with
    | none   => exact ⟨_, _, _, _, .unprepared⟩
    | some s =>
      match h : call.apply (s, w) with
      | (.error f, s', w') => exact ⟨_, _, _, _, .refused h⟩
      | (.ok a, s', w')    => exact ⟨_, _, _, _, .answered h⟩

theorem bareCall_depicted (q : Request) (call : Attempt (D.Statement × σ) Failure α) :
    Depicts (Asking id q call) (Handle.call (D := D.transcribed) (noting (.asked q) call)) := by
  have hworded := call_depicted (D := D) id q call
  rwa [Attempt.reword_id] at hworded

/-! ## All rows -/

/-- A pass over the rows that a cursor has left: it is moved to a row, and something is done with the row, again and
    again, until a move finds no other or something fails. The first of the rows has the number `k`. -/
inductive Passing (wrap : Failure → ε) (Row : Nat → D.Cursor → σ → Except ε α → σ → Transcript → Prop) :
    Nat → D.Cursor → σ → Except ε (List α) → D.Cursor → σ → Transcript → Prop where
  | done {k : Nat} {c c' : D.Cursor} {w w' : σ} (hmove : D.next.apply (c, w) = (.ok false, c', w')) :
      Passing wrap Row k c w (.ok []) c' w' [.moved none]
  | unmoved {k : Nat} {c c' : D.Cursor} {w w' : σ} {f : Failure} (hmove : D.next.apply (c, w) = (.error f, c', w')) :
      Passing wrap Row k c w (.error (wrap f)) c' w' [.moved (some f)]
  | failed {k : Nat} {c c' : D.Cursor} {w w₁ w' : σ} {e : ε} {steps : Transcript}
      (hmove : D.next.apply (c, w) = (.ok true, c', w₁)) (hrow : Row k c' w₁ (.error e) w' steps) :
      Passing wrap Row k c w (.error e) c' w' (.moved none :: steps)
  | row {k : Nat} {c c₁ c' : D.Cursor} {w w₁ w₂ w' : σ} {a : α} {r : Except ε (List α)} {T₁ T₂ : Transcript}
      (hmove : D.next.apply (c, w) = (.ok true, c₁, w₁)) (hrow : Row k c₁ w₁ (.ok a) w₂ T₁)
      (hrest : Passing wrap Row (k + 1) c₁ w₂ r c' w' T₂) :
      Passing wrap Row k c w (r.map (a :: ·)) c' w' (.moved none :: (T₁ ++ T₂))

/-- A relation that says all of what is done with a row. -/
structure DepictsRow (Row : Nat → D.Cursor → σ → Except ε α → σ → Transcript → Prop)
    (step : Nat → D.Cursor → Attempt (σ × Transcript) ε α) : Prop where
  sound {k : Nat} {c : D.Cursor} {w w' : σ} {r : Except ε α} {steps : Transcript} :
    Row k c w r w' steps → ∀ T, (step k c).apply (w, T) = (r, w', T ++ steps)
  total (k : Nat) (c : D.Cursor) (w : σ) : ∃ r w' steps, Row k c w r w' steps

section
variable {wrap : Failure → ε} {Row : Nat → D.Cursor → σ → Except ε α → σ → Transcript → Prop}
  {step : Nat → D.Cursor → Attempt (σ × Transcript) ε α} (hrows : DepictsRow Row step)
include hrows

theorem collect_of_passing {k : Nat} {c c' : D.Cursor} {w w' : σ} {r : Except ε (List α)} {steps : Transcript}
    (h : Passing wrap Row k c w r c' w' steps) (T : Transcript) :
    D.transcribed.collect wrap step k (c, w, T) = (r, c', w', T ++ steps) := by
  -- The induction is on the rows that are passed over.
  induction h generalizing T with
  | done hmove               => exact D.transcribed.collect_of_done (noting_of_apply hmove .moved T)
  | unmoved hmove            => exact D.transcribed.collect_of_unmoved (noting_of_apply hmove .moved T)
  | failed hmove hrow        =>
    have hstep := hrows.sound hrow (T ++ [.moved none])
    rw [List.append_assoc] at hstep
    exact D.transcribed.collect_of_unmapped (noting_of_apply hmove .moved T) hstep
  | row hmove hrow hrest ih  =>
    have hstep := hrows.sound hrow (T ++ [.moved none])
    rw [D.transcribed.collect_of_row (noting_of_apply hmove .moved T) hstep, ih, List.append_assoc, List.append_assoc]
    rfl

theorem Passing.total (k : Nat) (c : D.Cursor) (w : σ) : ∃ r c' w' steps, Passing wrap Row k c w r c' w' steps := by
  -- A pass goes on as long as the cursor has rows left.
  induction hleft : D.rowsLeft c using Nat.strongRecOn generalizing k c w with
  | ind left ih =>
    subst hleft
    match hmove : D.next.apply (c, w) with
    | (.error f, c₁, w₁)  => exact ⟨_, _, _, _, .unmoved hmove⟩
    | (.ok false, c₁, w₁) => exact ⟨_, _, _, _, .done hmove⟩
    | (.ok true, c₁, w₁)  =>
      obtain ⟨r, w₂, steps, hrow⟩ := hrows.total k c₁ w₁
      cases r with
      | error e => exact ⟨_, _, _, _, .failed hmove hrow⟩
      | ok a    =>
        obtain ⟨r, c', w', steps, hrest⟩ := ih _ (D.rowsLeft_next hmove) (k + 1) c₁ w₂ rfl
        exact ⟨_, _, _, _, .row hmove hrow hrest⟩

theorem passing_depicted (wrap : Failure → ε) (k : Nat) :
    Depicts (Passing wrap Row k) (.of (D.transcribed.collect wrap step k)) where
  sound := by
    intro c c' w w' r steps h T
    rw [Attempt.of_apply]
    exact collect_of_passing hrows h T
  total := Passing.total hrows k

end

/-! ## Work with a cursor -/

/-- Work with a cursor that is opened for it. The cursor stays in the handle. -/
inductive Working (wrap : Failure → ε) (q : Request) (opening : Attempt (D.Statement × σ) Failure D.Cursor)
    (P : D.Cursor → σ → Except ε α → D.Cursor → σ → Transcript → Prop) :
    Handle D.transcribed → σ → Except ε α → Handle D.transcribed → σ → Transcript → Prop where
  /-- No cursor is opened, and the work is not begun. -/
  | notOpened {h h' : Handle D.transcribed} {w w' : σ} {f : Failure} {steps : Transcript}
      (ho : Opening q opening h w (.error f) h' w' steps) :
      Working wrap q opening P h w (.error (wrap f)) h' w' steps
  | worked {h h₁ : Handle D.transcribed} {w w₁ w' : σ} {c c' : D.Cursor} {r : Except ε α} {T₁ T₂ : Transcript}
      (ho : Opening q opening h w (.ok c) h₁ w₁ T₁) (hwork : P c w₁ r c' w' T₂) :
      Working wrap q opening P h w r { h₁ with cursor := some c' } w' (T₁ ++ T₂)

theorem withCursor_depicted {P : D.Cursor → σ → Except ε α → D.Cursor → σ → Transcript → Prop}
    {work : Attempt (D.Cursor × σ × Transcript) ε α} (hwork : Depicts P work) (wrap : Failure → ε) (q : Request)
    (opening : Attempt (D.Statement × σ) Failure D.Cursor) :
    Depicts (Working wrap q opening P)
      (Handle.withCursor (D := D.transcribed) wrap (noting (.asked q) opening) work) where
  sound := by
    intro h h' w w' r steps hend T
    cases hend with
    | notOpened ho    => exact withCursor_of_opening ho T
    | worked ho hdone =>
      rw [withCursor_of_opening ho T, continued, ← List.append_assoc, Handle.keepCursor, Attempt.of_apply]
      simp only [hwork.sound hdone]
  total h w := by
    obtain ⟨r, h₁, w₁, T₁, ho⟩ := Opening.total q opening h w
    cases r with
    | error f => exact ⟨_, _, _, _, .notOpened ho⟩
    | ok c    =>
      obtain ⟨r, c', w', T₂, hdone⟩ := hwork.total c w₁
      exact ⟨_, _, _, _, .worked ho hdone⟩

/-! ## The release at the end -/

/-- An operation, and then the release of everything, however the operation ends. -/
inductive Finishing (wrap : String → ε → ε') (ofRelease : Error → ε')
    (O : Handle D.transcribed → σ → Except ε α → Handle D.transcribed → σ → Transcript → Prop)
    (c : Core D.transcribed) (w : σ) : Except ε' α → Core D.transcribed → σ → Transcript → Prop where
  /-- The operation fails, and nobody hears of the release. -/
  | failed {h h' : Handle D.transcribed} {w₁ w' : σ} {e : ε} {released : Except Error Unit} {steps closes : Transcript}
      (ho : O c.handle w (.error e) h w₁ steps) (hr : Releasing h w₁ released h' w' closes) :
      Finishing wrap ofRelease O c w (.error (wrap c.text e)) { c with handle := h' } w' (steps ++ closes)
  /-- The operation has a result, but not everything closes. -/
  | notReleased {h h' : Handle D.transcribed} {w₁ w' : σ} {a : α} {e : Error} {steps closes : Transcript}
      (ho : O c.handle w (.ok a) h w₁ steps) (hr : Releasing h w₁ (.error e) h' w' closes) :
      Finishing wrap ofRelease O c w (.error (ofRelease e)) { c with handle := h' } w' (steps ++ closes)
  | finished {h h' : Handle D.transcribed} {w₁ w' : σ} {a : α} {steps closes : Transcript}
      (ho : O c.handle w (.ok a) h w₁ steps) (hr : Releasing h w₁ (.ok ()) h' w' closes) :
      Finishing wrap ofRelease O c w (.ok a) { c with handle := h' } w' (steps ++ closes)

section
variable {wrap : String → ε → ε'} {ofRelease : Error → ε'}
  {O : Handle D.transcribed → σ → Except ε α → Handle D.transcribed → σ → Transcript → Prop}
  {op : Attempt (Handle D.transcribed × σ × Transcript) ε α}

theorem finish_of_depicted (hop : Depicts O op) {c : Core D.transcribed} {h h' : Handle D.transcribed} {w w₁ w' : σ}
    {r : Except ε α} {released : Except Error Unit} {steps closes : Transcript} (ho : O c.handle w r h w₁ steps)
    (hr : Releasing h w₁ released h' w' closes) (T : Transcript) :
    (Core.finish wrap ofRelease op).apply (c, w, T)
      = (settle ofRelease (r.mapError (wrap c.text)) released, { c with handle := h' }, w', T ++ (steps ++ closes)) := by
  unfold Core.finish Core.conclude
  rw [← List.append_assoc]
  simp only [Attempt.of_apply, Core.onHandle_apply, hop.sound ho T, cleanup_depicted.sound hr]

theorem finish_depicted (hop : Depicts O op) :
    Depicts (Finishing wrap ofRelease O) (Core.finish (D := D.transcribed) wrap ofRelease op) where
  sound := by
    intro c c' w w' r steps hend T
    cases hend with
    | failed ho hr      => exact finish_of_depicted hop ho hr T
    | notReleased ho hr => exact finish_of_depicted hop ho hr T
    | finished ho hr    => exact finish_of_depicted hop ho hr T
  total c w := by
    obtain ⟨r, h, w₁, steps, ho⟩ := hop.total c.handle w
    obtain ⟨released, h', w', closes, hr⟩ := cleanup_depicted.total h w₁
    cases r with
    | error e => exact ⟨_, _, _, _, .failed ho hr⟩
    | ok a    =>
      cases released with
      | error e => exact ⟨_, _, _, _, .notReleased ho hr⟩
      | ok u    => exact ⟨_, _, _, _, .finished ho hr⟩

/-- However it ends, everything is released behind the operation, and nothing is left. -/
theorem Finishing.released {c c' : Core D.transcribed} {w w' : σ} {r : Except ε' α} {steps : Transcript}
    (h : Finishing wrap ofRelease O c w r c' w' steps) :
    ∃ outcome h₁ w₁ released done closes, O c.handle w outcome h₁ w₁ done
      ∧ Releasing h₁ w₁ released ⟨none, none, none⟩ w' closes ∧ steps = done ++ closes := by
  cases h with
  | failed ho hr | notReleased ho hr | finished ho hr =>
    obtain rfl := hr.nothing_left
    exact ⟨_, _, _, _, _, _, ho, hr, rfl⟩

/-- A statement that is used up by an operation. What is left of it nobody sees. -/
theorem spent_apply_iff (hop : Depicts O op) {c : Core D.transcribed} {w w' : σ} {T T' : Transcript}
    {r : Except ε' α} :
    (Attempt.of fun s => let (r, _, s') := (Core.finish (D := D.transcribed) wrap ofRelease op).apply (c, s); (r, s')
      : Attempt (σ × Transcript) ε' α).apply (w, T) = (r, w', T')
      ↔ ∃ c' steps, T' = T ++ steps ∧ Finishing wrap ofRelease O c w r c' w' steps := by
  rw [Attempt.of_apply]
  constructor
  · intro hend
    match hfinish : (Core.finish wrap ofRelease op).apply (c, w, T) with
    | (r₁, c', w₁, T₁) =>
      rw [hfinish] at hend
      obtain ⟨rfl, rfl, rfl⟩ : r₁ = r ∧ w₁ = w' ∧ T₁ = T' := by simpa only [Prod.mk.injEq] using hend
      exact ⟨c', (finish_depicted hop).apply_iff.mp hfinish⟩
  · rintro ⟨c', steps, hT', hrun⟩
    have hfinish := (finish_depicted hop).apply_iff.mpr ⟨steps, hT', hrun⟩
    simp only [hfinish]

end

/-- What is answered is known when everything that is done is known. -/
theorem fst_eq_iff {x : Attempt (σ × Transcript) ε α} {R : Except ε α → S → σ → Transcript → Prop} {w : σ}
    {T : Transcript}
    (hx : ∀ r w' T', x.apply (w, T) = (r, w', T') ↔ ∃ s' steps, T' = T ++ steps ∧ R r s' w' steps)
    {r : Except ε α} : (x.apply (w, T)).1 = r ↔ ∃ s' w' steps, R r s' w' steps := by
  constructor
  · intro hr
    obtain ⟨s', steps, -, hdone⟩ := (hx _ _ _).mp (Prod.ext hr rfl)
    exact ⟨s', _, steps, hdone⟩
  · rintro ⟨s', w', steps, hdone⟩
    have hend := (hx r w' (T ++ steps)).mpr ⟨s', steps, rfl, hdone⟩
    rw [hend]

/-- The run of a query: an operation, and the release after it. -/
abbrev Running (O : Handle D.transcribed → σ → Except (Halt Failure) β → Handle D.transcribed → σ → Transcript → Prop)
    (c : Core D.transcribed) (w : σ) : Except (Halt Error) β → Core D.transcribed → σ → Transcript → Prop :=
  Finishing Select.whileExecuting .failed O c w

theorem run_apply_iff
    {O : Handle D.transcribed → σ → Except (Halt Failure) β → Handle D.transcribed → σ → Transcript → Prop}
    {op : Attempt (Handle D.transcribed × σ × Transcript) (Halt Failure) β} (hop : Depicts O op)
    (q : Select D.transcribed α) {w w' : σ} {T T' : Transcript} {r : Except (Halt Error) β} :
    (q.run op).apply (w, T) = (r, w', T') ↔ ∃ c' steps, T' = T ++ steps ∧ Running O q.core w r c' w' steps := by
  rw [Select.run_apply]
  exact spent_apply_iff hop

/-- The run of an update, in the same way. -/
abbrev Updating (O : Handle D.transcribed → σ → Except Failure α → Handle D.transcribed → σ → Transcript → Prop)
    (c : Core D.transcribed) (w : σ) : Except Error α → Core D.transcribed → σ → Transcript → Prop :=
  Finishing .execute id O c w

theorem update_run_apply_iff
    {O : Handle D.transcribed → σ → Except Failure α → Handle D.transcribed → σ → Transcript → Prop}
    {op : Attempt (Handle D.transcribed × σ × Transcript) Failure α} (hop : Depicts O op) (u : Update D.transcribed)
    {w w' : σ} {T T' : Transcript} {r : Except Error α} :
    (u.run op).apply (w, T) = (r, w', T') ↔ ∃ c' steps, T' = T ++ steps ∧ Updating O u.core w r c' w' steps :=
  spent_apply_iff hop

end Transcript

end NamedSql
