import NamedSql.Proofs.Handle.Steps
import NamedSql.Proofs.Transcript.Basic

/-!
# `Proofs.Transcript.Handle` — operations on a handle, and the closes after them

## Contents
- **Closing.** `Handle.owned`, `Closes`: every resource is closed, in order, and the first one that does not close is
  told. `closeCursor_closes` and its like for a single one, and `cleanup_closes` for a handle.
- **Working.** `Works`: operations on the statement of a handle, which may open a cursor; `Steady`, those that open
  none. `Steady.call` for a call, `Works.withCursor` for work with a cursor, and rules to put them together.
-/

namespace NamedSql

open Transcript

variable {σ ε ε' α β : Type} {D : Driver σ}

/-- What a handle owns, in the order in which it is closed. -/
def Handle.owned (h : Handle D) : List Resource :=
  (h.cursor.map fun _ => .cursor).toList ++ (h.statement.map fun _ => .statement).toList
    ++ (h.connection.map fun _ => .connection).toList

namespace Transcript

/-! ## Closing -/

/-- Some resources are closed, one after the other and whatever fails, and the first failure is told. -/
structure Closes (rs : List Resource) (r : Except Error Unit) (T : Transcript) : Prop where
  attempted : T.map Step.closed? = rs.map some
  told      : failureOf r = T.findSome? Step.refusal?

namespace Closes

theorem nothing : Closes [] (.ok ()) [] := ⟨rfl, rfl⟩

theorem single (r : Resource) (x : Except Failure Unit) :
    Closes [r] (x.mapError (.release r)) [.closed r (failureOf x)] := by
  refine ⟨rfl, ?_⟩
  cases x with
  | ok u    => rfl
  | error f => rfl

theorem append {rs rs' : List Resource} {a b : Except Error Unit} {T T' : Transcript} (h : Closes rs a T)
    (h' : Closes rs' b T') : Closes (rs ++ rs') (a.bind fun _ => b) (T ++ T') := by
  refine ⟨?_, ?_⟩
  · rw [List.map_append, List.map_append, h.attempted, h'.attempted]
  · rw [List.findSome?_append, ← h.told, ← h'.told]
    cases a with
    | ok u    => rfl
    | error e => rfl

end Closes

theorem firstFailure_eq_bind (a b c : Except Error Unit) :
    Handle.firstFailure a b c = (a.bind fun _ => b).bind fun _ => c := by
  cases a with
  | error e => rfl
  | ok u    => cases b with
    | error e => rfl
    | ok u    => rfl

section
variable (h : Handle D.transcribed) (w : σ) (T : Transcript)

theorem closeCursor_closes :
    ∃ r w' T', Handle.closeCursor.apply (h, w, T) = (r, { h with cursor := none }, w', T ++ T')
      ∧ Closes (h.cursor.map fun _ => .cursor).toList r T' := by
  obtain ⟨k, s, c⟩ := h
  cases c with
  | none   => exact ⟨_, w, [], by rw [Handle.closeCursor_of_none rfl, List.append_nil], .nothing⟩
  | some c => exact ⟨_, _, _, rfl, .single .cursor _⟩

theorem closeStatement_closes :
    ∃ r w' T', Handle.closeStatement.apply (h, w, T) = (r, { h with statement := none }, w', T ++ T')
      ∧ Closes (h.statement.map fun _ => .statement).toList r T' := by
  obtain ⟨k, s, c⟩ := h
  cases s with
  | none   => exact ⟨_, w, [], by rw [Handle.closeStatement_of_none rfl, List.append_nil], .nothing⟩
  | some s => exact ⟨_, _, _, rfl, .single .statement _⟩

theorem closeConnection_closes :
    ∃ r w' T', Handle.closeConnection.apply (h, w, T) = (r, { h with connection := none }, w', T ++ T')
      ∧ Closes (h.connection.map fun _ => .connection).toList r T' := by
  obtain ⟨k, s, c⟩ := h
  cases k with
  | none   => exact ⟨.ok (), w, [], by rw [List.append_nil]; rfl, .nothing⟩
  | some k => exact ⟨_, _, _, rfl, .single .connection _⟩

/-- A cleanup closes everything that is owned, also when something before it did not close. -/
theorem cleanup_closes :
    ∃ r w' T', Handle.cleanup.apply (h, w, T) = (r, ⟨none, none, none⟩, w', T ++ T') ∧ Closes h.owned r T' := by
  obtain ⟨a, w₁, T₁, hcursor, ha⟩ := closeCursor_closes h w T
  obtain ⟨b, w₂, T₂, hstatement, hb⟩ := closeStatement_closes { h with cursor := none } w₁ (T ++ T₁)
  obtain ⟨c, w₃, T₃, hconnection, hc⟩ :=
    closeConnection_closes { h with cursor := none, statement := none } w₂ (T ++ T₁ ++ T₂)
  refine ⟨Handle.firstFailure a b c, w₃, T₁ ++ T₂ ++ T₃, ?_, ?_⟩
  · unfold Handle.cleanup
    rw [Attempt.of_apply]
    simp only [hcursor, hstatement, hconnection]
    rw [List.append_assoc, List.append_assoc, List.append_assoc]
  · rw [firstFailure_eq_bind]
    exact (ha.append hb).append hc

end

/-! ## Working -/

/-- An operation on a statement without an open cursor. It asks what is planned; what it enters in the transcript
    tells how it goes, and whether there is a cursor after it. -/
def Works (plan : List Request) (up : ε → Halt Failure)
    (x : Attempt (Handle D.transcribed × σ × Transcript) ε α) : Prop :=
  ∀ (k : D.Connection) (st : D.Statement) w T, ∃ r st' c w' T',
    x.apply (⟨some k, some st, none⟩, w, T) = (r, ⟨some k, some st', c⟩, w', T ++ T')
      ∧ Follows plan ((failureOf r).map up) T' ∧ c.isSome = T'.any Step.opens

/-- An operation on a statement that opens no cursor. -/
def Steady (plan : List Request) (up : ε → Halt Failure)
    (x : Attempt (Handle D.transcribed × σ × Transcript) ε α) : Prop :=
  ∀ (k : D.Connection) (st : D.Statement) w T, ∃ r st' w' T',
    x.apply (⟨some k, some st, none⟩, w, T) = (r, ⟨some k, some st', none⟩, w', T ++ T')
      ∧ Follows plan ((failureOf r).map up) T' ∧ T'.any Step.opens = false

theorem Steady.call {q : Request} (hq : ∀ failure, (Step.asked q failure).opens = false)
    (x : Attempt (D.Statement × σ) Failure α) :
    Steady (D := D) [q] Halt.failed (Handle.call (noting (.asked q) x)) := by
  intro k st w T
  match hx : x.apply (st, w) with
  | (r, st', w') =>
    have hcall := Handle.call_of_apply (D := D.transcribed) (noting_of_apply hx (.asked q) T) (some k) none
    refine ⟨r, st', w', _, hcall, .single rfl rfl rfl, ?_⟩
    simp [hq]

theorem Steady.reword {plan : List Request} {up : ε → Halt Failure} {up' : ε' → Halt Failure} {g : ε → ε'}
    {x : Attempt (Handle D.transcribed × σ × Transcript) ε α} (hx : Steady plan up x) (hg : ∀ e, up' (g e) = up e) :
    Steady plan up' (x.reword g) := by
  intro k st w T
  obtain ⟨r, st', w', T', hend, htells, hopens⟩ := hx k st w T
  refine ⟨r.mapError g, st', w', T', ?_, ?_, hopens⟩
  · rw [Attempt.reword_apply, hend]
  · rw [failureOf_mapError, Option.map_map]
    rwa [show up' ∘ g = up from funext hg]

namespace Works

variable {plan plan' : List Request} {up : ε → Halt Failure} {x : Attempt (Handle D.transcribed × σ × Transcript) ε α}

theorem bind {f : α → Attempt (Handle D.transcribed × σ × Transcript) ε β} (hx : Steady plan up x)
    (hf : ∀ a, Works plan' up (f a)) : Works (plan ++ plan') up (x >>= f) := by
  intro k st w T
  obtain ⟨r, st₁, w₁, T₁, hend, htells, hopens⟩ := hx k st w T
  cases r with
  | error e =>
    refine ⟨.error e, st₁, none, w₁, T₁, Attempt.bind_of_error hend f, htells.failed plan', ?_⟩
    rw [hopens]
    rfl
  | ok a    =>
    obtain ⟨r, st₂, c, w₂, T₂, hend₂, htells₂, hopens₂⟩ := hf a k st₁ w₁ (T ++ T₁)
    refine ⟨r, st₂, c, w₂, T₁ ++ T₂, ?_, htells.append htells₂, ?_⟩
    · rw [Attempt.bind_apply, hend, ← List.append_assoc]
      exact hend₂
    · rw [List.any_append, hopens, Bool.false_or]
      exact hopens₂

theorem map (hx : Works plan up x) (g : α → β) : Works plan up (x >>= fun a => Pure.pure (g a)) := by
  intro k st w T
  obtain ⟨r, st', c, w', T', hend, htells, hopens⟩ := hx k st w T
  refine ⟨r.map g, st', c, w', T', ?_, ?_, hopens⟩
  · rw [bind_pure_comp, Attempt.map_apply, hend]
  · rwa [failureOf_map]

/-- A cursor is opened, and then worked with. -/
theorem withCursor {q : Request} (hq : ∀ failure, (Step.asked q failure).opens = failure.isNone)
    (opening : Attempt (D.Statement × σ) Failure D.Cursor) {wrap : Failure → ε}
    (hwrap : ∀ f, up (wrap f) = .failed f) {work : Attempt (D.Cursor × σ × Transcript) ε α}
    (hwork : Faithful worldly up work) :
    Works (D := D) [q] up (Handle.withCursor wrap (noting (.asked q) opening) work) := by
  intro k st w T
  match hopening : opening.apply (st, w) with
  | (.error f, st', w') =>
    have hnoted := noting_of_apply hopening (.asked q) T
    have hend := Handle.withCursor_of_error (D := D.transcribed) hnoted wrap work (some k)
    refine ⟨_, st', none, w', _, hend, .single rfl ?_ rfl, ?_⟩
    · exact congrArg some (hwrap f).symm
    · simp [hq]
  | (.ok c, st', w')    =>
    have hnoted := noting_of_apply hopening (.asked q) T
    obtain ⟨T', hlog, htells⟩ := hwork (c, w', T ++ [.asked q none])
    match hend : work.apply (c, w', T ++ [.asked q none]) with
    | (r, c', w'', T'') =>
      rw [hend] at hlog htells
      obtain rfl : T'' = T ++ [.asked q none] ++ T' := hlog
      have hopened : Follows [q] none [.asked q none] := .single rfl rfl rfl
      have hboth : Follows [q] ((failureOf r).map up) ([.asked q none] ++ T') := hopened.append htells
      refine ⟨r, st', some c', w'', [.asked q none] ++ T', ?_, hboth, ?_⟩
      · rw [← List.append_assoc]
        exact Handle.withCursor_of_ok (D := D.transcribed) hnoted hend wrap (some k)
      · simp [hq]

end Works

end Transcript

end NamedSql
