import NamedSql.MySql.Driver
import NamedSql.Proofs.Statement.Calls
import NamedSql.Proofs.Statement.Setting

/-!
# `Proofs.MySql.Holding` — values on this side of the connection

The values of a MySQL statement stay on this side until it runs. So binding leaves the world alone, and the
state of a statement is told by its slots.

## Contents
- `statementHolding`, `handleHolding`, `holding`: a statement as it is between two calls, by what its slots
  hold.
- `prepare_holding`: after preparing, nothing.
- **Step and run.** `bindSlot_holding`, `bind_holding`, `bindAt_holding`, then `perform_holding` for one call of
  the chain and `foldlM_holding` for any number of them.
-/

namespace NamedSql.MySql

variable {τ S : Type}

/-- What the driver keeps of a statement whose slots hold some values, and which has not been run. -/
abbrev statementHolding (session : Session τ) (sql : String) (keys : KeyCapture) (slots : List (Option Value))
    (limit : Option Nat) : Prepared τ :=
  ⟨session, (Positional.ofNamed sql).text, keys, slots, limit, [], []⟩

/-- The handle of such a statement. -/
abbrev handleHolding (session : Session τ) (sql : String) (keys : KeyCapture) (slots : List (Option Value))
    (limit : Option Nat) : Handle (driver τ) :=
  ⟨some session, some (statementHolding session sql keys slots limit), none⟩

/-- A statement between two calls, by what its slots hold. -/
def holding (session : Session τ) (sql : String) (keys : KeyCapture) (slots : List (Option Value)) :
    Core (driver τ) where
  text       := sql
  positional := Positional.ofNamed sql
  handle     := handleHolding session sql keys slots none

/-- On an open session a statement is prepared with as many empty slots as the server counts. -/
theorem prepare_holding {session : Session τ} {sql : String} {p : Pooled τ} {count : Nat}
    (hopen : session.loan ∉ p.returned)
    (hcount : ((session.server.prepare (Positional.ofNamed sql).text).apply p.far).1 = .ok count)
    (keys : KeyCapture) :
    (Core.prepare (D := driver τ) session sql keys).apply p
      = (.ok (holding session sql keys (List.replicate count none)),
          { p with far := ((session.server.prepare (Positional.ofNamed sql).text).apply p.far).2 }) := by
  have hsession : (Session.prepare (Positional.ofNamed sql).text keys).apply (session, p)
      = (.ok ⟨session, (Positional.ofNamed sql).text, keys, List.replicate count none, none, [], []⟩, session,
          { p with far := ((session.server.prepare (Positional.ofNamed sql).text).apply p.far).2 }) := by
    have hloan : (Pooled.onLoan session.loan (session.server.prepare (Positional.ofNamed sql).text)).apply p
        = (.ok count,
            { p with far := ((session.server.prepare (Positional.ofNamed sql).text).apply p.far).2 }) := by
      rw [Pooled.onLoan, Attempt.of_apply, if_neg hopen, Pooled.onFar, Attempt.within_apply, hcount]
    unfold Session.prepare
    rw [Attempt.of_apply]
    simp only
    rw [hloan]
    rfl
  exact Core.prepare_of_ok (D := driver τ) hsession

variable {session : Session τ} {sql : String} {keys : KeyCapture} {slots : List (Option Value)} {p : Pooled τ}

/-! ## Binding -/

theorem bindSlot_holding (name : String) {k : Nat} (hk : 1 ≤ k ∧ k ≤ slots.length) (v : Value) :
    (Core.bindSlot name k v).apply (holding session sql keys slots, p)
      = (.ok (), holding session sql keys (slots.set (k - 1) (some v)), p) := by
  have hbind : (locally (Prepared.bind k v)).apply (statementHolding session sql keys slots none, p)
      = (.ok (), statementHolding session sql keys (slots.set (k - 1) (some v)) none, p) := by
    simp [locally, Prepared.bind, hk]
  exact Core.bindSlot_of_ok (D := driver τ) hbind name

/-- A value is written to each of some slots. -/
theorem forM_bindSlot_holding (name : String) {ks : List Nat} (hks : ∀ k ∈ ks, 1 ≤ k ∧ k ≤ slots.length)
    (v : Value) :
    (ks.forM fun k => Core.bindSlot name k v).apply (holding session sql keys slots, p)
      = (.ok (), holding session sql keys (writeSlots v ks slots), p) := by
  induction ks generalizing slots with
  | nil => rfl
  | cons k ks ih =>
    have hrest : ∀ j ∈ ks, 1 ≤ j ∧ j ≤ (slots.set (k - 1) (some v)).length := by
      intro j hj
      rw [List.length_set]
      exact hks j (List.mem_cons_of_mem _ hj)
    -- The number of slots stays the same, so the other slots are still in range.
    show (Core.bindSlot name k v >>= fun _ => ks.forM fun k => Core.bindSlot name k v).apply _ = _
    rw [Attempt.bind_apply, bindSlot_holding name (hks k (List.mem_cons_self ..)) v]
    exact ih hrest

section
variable (hcount : slots.length = (Positional.ofNamed sql).names.length)
include hcount

/-- A value goes to every slot of a name. -/
theorem bind_holding (name : String) (v : Value) :
    (Core.bind name v).apply (holding session sql keys slots, p)
      = (.ok (), holding session sql keys (writeSlots v ((Positional.ofNamed sql).slots name) slots), p) := by
  rw [Core.bind_eq_forM]
  refine forM_bindSlot_holding name ?_ v
  intro k hk
  rw [hcount]
  exact Positional.inRange_of_mem_slots hk

theorem bindAt_holding {k : Nat} (hk : 1 ≤ k ∧ k ≤ (Positional.ofNamed sql).names.length) (v : Value) :
    (Core.bindAt k v).apply (holding session sql keys slots, p)
      = (.ok (), holding session sql keys (writeSlots v [k] slots), p) := by
  rw [Core.bindAt_of_inRange (c := holding session sql keys slots) hk]
  exact bindSlot_holding _ ⟨hk.1, hcount ▸ hk.2⟩ v

end

theorem bindAt_of_not_inRange (session : Session τ) (keys : KeyCapture) (slots : List (Option Value))
    (p : Pooled τ) {k : Nat} (hk : ¬ (1 ≤ k ∧ k ≤ (Positional.ofNamed sql).names.length)) (v : Value) :
    ∃ e s, (Core.bindAt k v).apply (holding session sql keys slots, p) = (.error e, s) := by
  rw [Core.bindAt_of_not_inRange (c := holding session sql keys slots) hk]
  exact ⟨_, _, rfl⟩

/-! ## Calls of the chain -/

section
variable [HasCore (driver τ) S] {s : S}

theorem chain_of_ok {x : Attempt (Core (driver τ) × Pooled τ) Error Unit} {c : Core (driver τ)} {p' : Pooled τ}
    (h : x.apply (HasCore.core s, p) = (.ok (), c, p')) :
    (HasCore.chain (HasCore.onCore x) s).apply p = (.ok (HasCore.withCore s c), p') := by
  simp [HasCore.chain, HasCore.onCore, h]

theorem chain_of_error {x : Attempt (Core (driver τ) × Pooled τ) Error Unit} {e : Error}
    {w : Core (driver τ) × Pooled τ} (h : x.apply (HasCore.core s, p) = (.error e, w)) :
    ∃ p', (HasCore.chain (HasCore.onCore x) s).apply p = (.error e, p') := by
  simp [HasCore.chain, HasCore.onCore, h]

/-- A call of the chain that keeps to the slots writes to them and does nothing else. -/
theorem perform_holding (hs : HasCore.core s = holding session sql keys slots)
    (hcount : slots.length = (Positional.ofNamed sql).names.length) {x : Setting}
    (hx : x.InRange (Positional.ofNamed sql).names.length) :
    (x.perform s).apply p
      = (.ok (HasCore.withCore s (holding session sql keys (x.write (Positional.ofNamed sql) slots))), p) := by
  cases x with
  | set name v     => exact chain_of_ok (hs ▸ bind_holding hcount name v)
  | setNull name t => exact chain_of_ok (hs ▸ bind_holding hcount name (.null t))
  | setAt k v      => exact chain_of_ok (hs ▸ bindAt_holding hcount hx v)

/-- A call of the chain that succeeds keeps to the slots. -/
theorem inRange_of_perform (hs : HasCore.core s = holding session sql keys slots) {x : Setting} {s' : S}
    {p' : Pooled τ} (h : (x.perform s).apply p = (.ok s', p')) :
    x.InRange (Positional.ofNamed sql).names.length := by
  cases x with
  | set name v     => exact True.intro
  | setNull name t => exact True.intro
  | setAt k v      =>
    by_cases hk : 1 ≤ k ∧ k ≤ (Positional.ofNamed sql).names.length
    · exact hk
    · -- Out of range the call would have failed.
      obtain ⟨e, w, hfail⟩ := bindAt_of_not_inRange session keys slots p hk v
      obtain ⟨p'', herror⟩ := chain_of_error (hs ▸ hfail)
      exact absurd (h.symm.trans herror) (by simp)

/-- **What a chain does.** Calls of the chain that all succeed write to the slots, one after the other, and do
    nothing else. -/
theorem foldlM_holding (xs : List Setting) {s s' : S} {p p' : Pooled τ} {slots : List (Option Value)}
    (hs : HasCore.core s = holding session sql keys slots)
    (hcount : slots.length = (Positional.ofNamed sql).names.length)
    (h : (xs.foldlM (fun s x => Setting.perform x s) s).apply p = (.ok s', p')) :
    (∀ x ∈ xs, x.InRange (Positional.ofNamed sql).names.length)
      ∧ s' = HasCore.withCore s (holding session sql keys (writeAll (Positional.ofNamed sql) xs slots))
      ∧ p' = p := by
  -- The statement and its slots change with each call; the world does not.
  induction xs generalizing s slots with
  | nil =>
    obtain ⟨rfl, rfl⟩ : s = s' ∧ p = p' := by simpa using h
    refine ⟨by simp, ?_, rfl⟩
    show s = HasCore.withCore s (holding session sql keys slots)
    rw [← hs, HasCore.withCore_core]
  | cons x xs ih =>
    rw [List.foldlM_cons, Attempt.bind_apply] at h
    match hx : (x.perform s).apply p with
    | (.error e, p₁) =>
      rw [hx] at h
      exact absurd h (by simp)
    | (.ok s₁, p₁)   =>
      have hrange := inRange_of_perform hs hx
      have hstep := perform_holding (p := p) hs hcount hrange
      obtain ⟨rfl, rfl⟩ :
          s₁ = HasCore.withCore s (holding session sql keys (x.write (Positional.ofNamed sql) slots))
            ∧ p₁ = p := by simpa using hx.symm.trans hstep
      rw [hx] at h
      obtain ⟨hranges, hs', hp'⟩ := ih (HasCore.core_withCore ..) (by rwa [Setting.length_write]) h
      refine ⟨?_, ?_, hp'⟩
      · intro y hy
        rcases List.mem_cons.mp hy with rfl | hy
        · exact hrange
        · exact hranges y hy
      · rw [hs', HasCore.withCore_withCore]
        rfl

end

end NamedSql.MySql
