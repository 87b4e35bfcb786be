import NamedSql.Proofs.Placeholder.Slots
import NamedSql.Proofs.Statement.Calls

/-!
# `Proofs.Statement.Spent` — what is left to say when everything has been released

A statement that was bound to in place and failed is still in its owner's hands, but its handle owns nothing any
more. Each operation notices this in its own way: some answer that the statement is closed, some wrap that up as
their own failure, some never look at the handle. None of them changes anything.

## Contents
- `Handle.isReleased_iff`; `Handle.Spent`, what a released handle answers, and `Handle.spent_of_isReleased`.
- `HasCore.Spent`, `Select.Spent`, `Update.Spent`: what a statement answers whose handle is released, and that
  being released is enough for it (`Select.spent_of_isReleased`, `Update.spent_of_isReleased`).
-/

namespace NamedSql

variable {σ ε ε' α S : Type} {D : Driver σ}

namespace Handle

theorem isReleased_iff {h : Handle D} : h.isReleased = true ↔ h = ⟨none, none, none⟩ := by
  obtain ⟨k, s, c⟩ := h
  simp [isReleased, Option.isNone_iff_eq_none, and_assoc]

/-- A handle that has released everything, by its answers. Whatever is asked of it, neither the handle nor the
    world changes. -/
structure Spent (s : Handle D × σ) : Prop where
  released : s.1.isReleased = true
  prepare (sql : String) (keys : KeyCapture) :
    (Handle.prepare sql keys).apply s = (.error .statementClosed, s)
  statement {α : Type} (use : Attempt (D.Statement × σ) Failure α) :
    (onStatement use).apply s = (.error .statementClosed, s)
  openQuery {ε α : Type} (wrap : Failure → ε) (work : Attempt (D.Cursor × σ) ε α) :
    (withQuery wrap work).apply s = (.error (wrap (.error .statementClosed)), s)
  openKeys {ε α : Type} (wrap : Failure → ε) (work : Attempt (D.Cursor × σ) ε α) :
    (withKeys wrap work).apply s = (.error (wrap (.error .statementClosed)), s)
  cleanup : Handle.cleanup.apply s = (.ok (), s)
  drop : s.1.discard s.2 = s.2

theorem spent_of_isReleased {s : Handle D × σ} (h : s.1.isReleased = true) : Spent s := by
  obtain ⟨k, w⟩ := s
  obtain rfl : k = ⟨none, none, none⟩ := isReleased_iff.mp h
  exact ⟨rfl, fun _ _ => rfl, fun _ => rfl, fun _ _ => rfl, fun _ _ => rfl, rfl, rfl⟩

end Handle

/-! ## Statements -/

namespace Core

variable {c : Core D}

theorem bindSlot_of_isReleased (h : c.handle.isReleased = true) (name : String) (slot : Nat) (v : Value) (w : σ) :
    (bindSlot name slot v).apply (c, w) = (.error .statementClosed, c, w) := by
  obtain ⟨text, p, k⟩ := c
  obtain rfl : k = ⟨none, none, none⟩ := Handle.isReleased_iff.mp h
  rfl

/-- A name is bound slot by slot, so one without slots is bound without asking the handle. -/
theorem bind_of_isReleased (h : c.handle.isReleased = true) (name : String) (v : Value) (w : σ) :
    (bind name v).apply (c, w)
      = (if name ∈ c.positional.names then .error .statementClosed else .ok (), c, w) := by
  rw [bind_eq_forM]
  by_cases hname : name ∈ c.positional.names
  · rw [if_pos hname]
    obtain ⟨k, ks, hslots⟩ := List.exists_cons_of_ne_nil
      (fun hnil => Positional.slots_eq_nil_iff.mp hnil hname)
    rw [hslots]
    show (bindSlot name k v >>= fun _ => ks.forM fun k => bindSlot name k v).apply (c, w) = _
    rw [Attempt.bind_apply, bindSlot_of_isReleased h]
  · rw [if_neg hname, Positional.slots_eq_nil_iff.mpr hname]
    rfl

/-- Whether there is such a slot is looked at before the handle is. -/
theorem bindAt_of_isReleased (h : c.handle.isReleased = true) (slot : Nat) (v : Value) (w : σ) :
    (bindAt slot v).apply (c, w)
      = (.error (if 1 ≤ slot ∧ slot ≤ c.positional.names.length then .statementClosed
          else .bind ("#" ++ toString slot) v.display (.noSlot slot c.positional.names.length)), c, w) := by
  by_cases hslot : 1 ≤ slot ∧ slot ≤ c.positional.names.length
  · rw [if_pos hslot, bindAt_of_inRange hslot]
    exact bindSlot_of_isReleased h _ slot v w
  · rw [if_neg hslot, bindAt_of_not_inRange hslot]
    obtain ⟨text, p, k⟩ := c
    obtain rfl : k = ⟨none, none, none⟩ := Handle.isReleased_iff.mp h
    rfl

theorem addBatch_of_isReleased (h : c.handle.isReleased = true) (w : σ) :
    addBatch.apply (c, w) = (.error .statementClosed, c, w) := by
  obtain ⟨text, p, k⟩ := c
  obtain rfl : k = ⟨none, none, none⟩ := Handle.isReleased_iff.mp h
  rfl

/-- What an operation fails with on a released handle is what the run of the statement fails with. -/
theorem finish_of_isReleased (h : c.handle.isReleased = true) {x : Attempt (Handle D × σ) ε α} {e : ε} {w : σ}
    (hx : x.apply (c.handle, w) = (.error e, c.handle, w)) (wrap : String → ε → ε') (ofRelease : Error → ε') :
    (finish wrap ofRelease x).apply (c, w) = (.error (wrap c.text e), c, w) := by
  have hcleanup : Handle.cleanup.apply (c.handle, w) = (.ok (), c.handle, w) :=
    (Handle.spent_of_isReleased (s := (c.handle, w)) h).cleanup
  unfold finish conclude onHandle
  simp only [Attempt.of_apply, hx, hcleanup]
  rfl

end Core

namespace HasCore

variable [HasCore D S]

/-- A statement whose handle has released everything, by its answers to those who bind to it or let it go. -/
structure Spent (s : S) (w : σ) : Prop where
  released : (core s : Core D).handle.isReleased = true
  bindValue (name : String) (v : Value) :
    (HasCore.bindValue name v).apply (s, w)
      = (if name ∈ (core s : Core D).positional.names then .error .statementClosed else .ok (), s, w)
  bindIndex (slot : Nat) (v : Value) :
    (HasCore.bindIndex slot v).apply (s, w)
      = (.error (if 1 ≤ slot ∧ slot ≤ (core s : Core D).positional.names.length then .statementClosed
          else .bind ("#" ++ toString slot) v.display (.noSlot slot (core s : Core D).positional.names.length)), s, w)
  set (name : String) (v : Value) :
    (HasCore.set s name v).apply w
      = (if name ∈ (core s : Core D).positional.names then .error .statementClosed else .ok s, w)
  setAt (slot : Nat) (v : Value) :
    (HasCore.setAt s slot v).apply w
      = (.error (if 1 ≤ slot ∧ slot ≤ (core s : Core D).positional.names.length then .statementClosed
          else .bind ("#" ++ toString slot) v.display (.noSlot slot (core s : Core D).positional.names.length)), w)
  drop : HasCore.discard s w = w

section
variable {s : S} {w : σ} {x : Attempt (Core D × σ) Error Unit} {r : Except Error Unit}

theorem onCore_of_unchanged (h : x.apply (core s, w) = (r, core s, w)) : (onCore x).apply (s, w) = (r, s, w) := by
  unfold onCore
  simp only [Attempt.of_apply, h, withCore_core]

/-- A statement that is let go when its handle is released leaves the world as it is. -/
theorem chain_of_unchanged (hs : (core s : Core D).handle.isReleased = true)
    (h : x.apply (core s, w) = (r, core s, w)) :
    (chain (onCore x) s).apply w = (r.map fun _ => s, w) := by
  unfold chain
  simp only [Attempt.of_apply, onCore_of_unchanged h]
  cases r with
  | ok u    => rfl
  | error e => exact congrArg (Prod.mk _) (Handle.spent_of_isReleased (s := ((core s : Core D).handle, w)) hs).drop

end

theorem spent_of_isReleased {s : S} (h : (core s : Core D).handle.isReleased = true) (w : σ) : Spent s w where
  released := h
  bindValue name v := onCore_of_unchanged (Core.bind_of_isReleased h name v w)
  bindIndex slot v := onCore_of_unchanged (Core.bindAt_of_isReleased h slot v w)
  set name v := by
    rw [HasCore.set, HasCore.bindValue, chain_of_unchanged h (Core.bind_of_isReleased h name v w)]
    by_cases hname : name ∈ (core s : Core D).positional.names
    · rw [if_pos hname, if_pos hname]
      rfl
    · rw [if_neg hname, if_neg hname]
      rfl
  setAt slot v := chain_of_unchanged h (Core.bindAt_of_isReleased h slot v w)
  drop := (Handle.spent_of_isReleased (s := ((core s : Core D).handle, w)) h).drop

end HasCore

/-- A query whose handle has released everything, by its answers. A query for a nullable column has one more way
    to be run; it answers like the others. -/
structure Select.Spent (s : Select D α) (w : σ) : Prop extends HasCore.Spent s w where
  execute : s.execute.apply w = (.error (.failed (.execute s.core.text (.error .statementClosed))), w)
  executeForAll : s.executeForAll.apply w = (.error (.failed (.execute s.core.text (.error .statementClosed))), w)
  executeScalar {β : Type} (q : Select D (Option β)) : q.core = s.core →
    q.executeScalar.apply w = (.error (.failed (.execute s.core.text (.error .statementClosed))), w)

/-- An update whose handle has released everything, by its answers. -/
structure Update.Spent (u : Update D) (w : σ) : Prop extends HasCore.Spent u w where
  addBatch : u.addBatch.apply w = (.error .statementClosed, w)
  execute : u.execute.apply w = (.error (.execute u.core.text (.error .statementClosed)), w)
  executeReturningKey :
    u.executeReturningKey.apply w = (.error (.execute u.core.text (.error .statementClosed)), w)
  executeBatch : u.executeBatch.apply w = (.error (.execute u.core.text (.error .statementClosed)), w)

section
variable {s : Select D α} {u : Update D} {w : σ} {β : Type}

theorem Select.run_of_isReleased (h : s.core.handle.isReleased = true)
    {x : Attempt (Handle D × σ) (Halt Failure) β} {f : Failure}
    (hx : x.apply (s.core.handle, w) = (.error (.failed f), s.core.handle, w)) :
    (s.run x).apply w = (.error (.failed (.execute s.core.text f)), w) := by
  rw [Select.run_apply, Core.finish_of_isReleased h hx]
  rfl

theorem Update.run_of_isReleased (h : u.core.handle.isReleased = true)
    {x : Attempt (Handle D × σ) Failure β} {f : Failure}
    (hx : x.apply (u.core.handle, w) = (.error f, u.core.handle, w)) :
    (u.run x).apply w = (.error (.execute u.core.text f), w) := by
  unfold Update.run
  simp only [Attempt.of_apply, Core.finish_of_isReleased h hx]

/-- The first thing most operations do is a call on the statement, and there is none. -/
theorem Handle.call_of_isReleased {k : Handle D} (h : k.isReleased = true) (x : Attempt (D.Statement × σ) Failure α)
    (w : σ) : (Handle.call x).apply (k, w) = (.error (.error .statementClosed), k, w) := by
  obtain rfl : k = ⟨none, none, none⟩ := Handle.isReleased_iff.mp h
  rfl

theorem Select.execute_of_isReleased (h : s.core.handle.isReleased = true) (w : σ) :
    s.execute.apply w = (.error (.failed (.execute s.core.text (.error .statementClosed))), w) := by
  have hlimit : ((Handle.call (D.setMaxRows (some 1))).reword Halt.failed).apply (s.core.handle, w)
      = (.error (.failed (.error .statementClosed)), s.core.handle, w) := by
    rw [Attempt.reword_apply, Handle.call_of_isReleased h]
    rfl
  unfold Select.execute
  exact Attempt.bind_of_error (Select.run_of_isReleased h (Attempt.bind_of_error hlimit _)) _

theorem Select.spent_of_isReleased (h : s.core.handle.isReleased = true) (w : σ) : s.Spent w where
  toSpent := HasCore.spent_of_isReleased h w
  execute := Select.execute_of_isReleased h w
  executeForAll := Select.run_of_isReleased h
    ((Handle.spent_of_isReleased (s := (s.core.handle, w)) h).openQuery Halt.failed _)
  executeScalar q hq := by
    have hrun := Select.execute_of_isReleased (s := { q with default := none }) (hq ▸ h) w
    rw [← hq]
    exact Attempt.bind_of_error hrun _

theorem Update.spent_of_isReleased (h : u.core.handle.isReleased = true) (w : σ) : u.Spent w where
  toSpent := HasCore.spent_of_isReleased h w
  addBatch := HasCore.chain_of_unchanged (s := u) h (Core.addBatch_of_isReleased h w)
  execute := Update.run_of_isReleased h (Attempt.bind_of_error (Handle.call_of_isReleased h D.executeUpdate w) _)
  executeReturningKey := Attempt.bind_of_error
    (Update.run_of_isReleased h (Attempt.bind_of_error (Handle.call_of_isReleased h D.executeUpdate w) _)) _
  executeBatch := Update.run_of_isReleased h (Attempt.bind_of_error (Handle.call_of_isReleased h D.executeBatch w) _)

end

end NamedSql
