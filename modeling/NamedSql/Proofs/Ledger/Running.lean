import NamedSql.Proofs.Ledger.Statement

/-!
# `Proofs.Ledger.Running` — the ways to run a statement

However a query or an update is run, the connection, the statement and the cursor are released before the answer
is given.

## Contents
- **What a cursor is used for.** `firstRow_onlyCalls`, `firstKey_onlyCalls`, `allKeys_onlyCalls`: nothing but
  calls are made on it.
- **Operations.** `Quiet.bind`, `withQuery_ready`, `withKeys_ready`.
- `execute_settled` and its like, one for each way to run a query or an update.
-/

namespace NamedSql

open Ledger

variable {σ ε α β : Type} {D : Driver σ}

/-! ## What a cursor is used for -/

theorem Select.firstRow_onlyCalls {m : Mapper D.audited α} (hm : ∀ n c, OnlyReads c.1 (m n c)) :
    OnlyCalls .cursor (Select.firstRow m) := by
  refine OnlyCalls.bind ((calling_onlyCalls .cursor .next D.next).reword Halt.failed) ?_
  intro b
  cases b with
  | true  => exact OnlyCalls.of_reads (Except.map some) fun c => hm 1 c
  | false => exact OnlyCalls.pure none

theorem Update.firstKey_onlyCalls : OnlyCalls .cursor (Update.firstKey (D := D.audited)) := by
  refine OnlyCalls.bind (calling_onlyCalls .cursor .next D.next) ?_
  intro b
  cases b with
  | true  => exact OnlyCalls.of_reads id fun c => getAs_onlyReads _ c 1
  | false => exact OnlyCalls.pure none

theorem Update.allKeys_onlyCalls : OnlyCalls .cursor (Update.allKeys (D := D.audited)) := by
  refine OnlyCalls.bind (collect_onlyCalls (fun _ c => getAs_onlyReads _ c 1) 1) ?_
  intro keys
  exact OnlyCalls.pure keys.reduceOption

/-! ## Operations -/

namespace Handle

/-- A call on the statement and then something that closes nothing of its own. Without a statement the call
    fails. -/
theorem Quiet.bind {x : Attempt (Handle D.audited × σ × Ledger) ε α}
    {f : α → Attempt (Handle D.audited × σ × Ledger) ε β}
    (hx : Attempt.Ensures (Ready []) x (fun _ s => Ready [] s) (fun _ s => Ready [] s))
    (hempty : ∀ w, ∃ e, x.apply (⟨none, none, none⟩, w) = (.error e, ⟨none, none, none⟩, w))
    (hf : ∀ a, Attempt.Ensures (Ready []) (f a) (fun _ s => Accounts [] s) (fun _ s => Accounts [] s)) :
    Quiet (x >>= f) where
  ready := Attempt.Ensures.bind (hx.mono (fun _ _ h => h) fun _ _ h => h.toAccounts) hf
  empty := by
    intro w
    obtain ⟨e, he⟩ := hempty w
    rw [Attempt.bind_apply, he]

theorem withQuery_ready (wrap : Failure → ε) {work : Attempt (D.audited.Cursor × σ × Ledger) ε α}
    (hwork : OnlyCalls .cursor work) :
    Attempt.Ensures (Ready []) (withQuery wrap work) (fun _ s => Accounts [] s) (fun _ s => Accounts [] s) :=
  (withCursor_idle .executeQuery D.executeQuery hwork).of_pre fun _ h => h.toIdle

theorem withKeys_ready (wrap : Failure → ε) {work : Attempt (D.audited.Cursor × σ × Ledger) ε α}
    (hwork : OnlyCalls .cursor work) :
    Attempt.Ensures (Ready []) (withKeys wrap work) (fun _ s => Accounts [] s) (fun _ s => Accounts [] s) :=
  (withCursor_idle .generatedKeys D.generatedKeys hwork).of_pre fun _ h => h.toIdle

end Handle

/-! ## The ways to run a statement -/

namespace Select

variable {s : Select D.audited α} {w : σ × Ledger}

theorem run_settled {x : Attempt (Handle D.audited × σ × Ledger) (Halt Failure) β} (hx : Handle.Quiet x)
    (h : Core.Sound (s.core, w)) : Settled ((s.run x).apply w).2.2 := by
  rw [run_apply]
  exact (Core.finish_gone hx whileExecuting .failed h).settled

theorem execute_settled (hm : ∀ n c, OnlyReads c.1 (s.mapper n c)) (h : Core.Sound (s.core, w)) :
    Settled (s.execute.apply w).2.2 := by
  have hlimit : Attempt.Ensures (Handle.Ready [])
      ((Handle.call (D.audited.setMaxRows (some 1))).reword Halt.failed)
      (fun _ s => Handle.Ready [] s) (fun _ s => Handle.Ready [] s) :=
    (Handle.call_ready (calling_onlyCalls .statement .setMaxRows (D.setMaxRows (some 1)))).reword fun _ _ h => h
  have hquiet := Handle.Quiet.bind hlimit (fun w => ⟨_, rfl⟩)
    fun _ => Handle.withQuery_ready Halt.failed (firstRow_onlyCalls hm)
  show Settled ((s.run _ >>= _).apply w).2.2
  rw [Attempt.bind_apply_snd fun _ _ => rfl]
  exact run_settled hquiet h

theorem executeForAll_settled (hm : ∀ n c, OnlyReads c.1 (s.mapper n c)) (h : Core.Sound (s.core, w)) :
    Settled (s.executeForAll.apply w).2.2 :=
  run_settled ⟨Handle.withQuery_ready _ (collect_onlyCalls hm 1), fun _ => rfl⟩ h

theorem executeScalar_settled {s : Select D.audited (Option α)} (hm : ∀ n c, OnlyReads c.1 (s.mapper n c))
    (h : Core.Sound (s.core, w)) : Settled (s.executeScalar.apply w).2.2 := by
  show Settled ((({ s with default := none } : Select D.audited (Option α)).execute >>= _).apply w).2.2
  rw [Attempt.bind_apply_snd fun _ _ => rfl]
  exact execute_settled hm h

end Select

namespace Update

variable {u : Update D.audited} {w : σ × Ledger}

theorem run_settled {x : Attempt (Handle D.audited × σ × Ledger) Failure β} (hx : Handle.Quiet x)
    (h : Core.Sound (u.core, w)) : Settled ((u.run x).apply w).2.2 :=
  (Core.finish_gone hx .execute id h).settled

theorem execute_settled (h : Core.Sound (u.core, w)) : Settled (u.execute.apply w).2.2 := by
  have hrun := Handle.call_ready (K := []) (calling_onlyCalls .statement .executeUpdate D.executeUpdate)
  refine run_settled (Handle.Quiet.bind hrun (fun w => ⟨_, rfl⟩) fun count => ?_) h
  exact Attempt.Ensures.bind (Handle.withKeys_ready id firstKey_onlyCalls)
    fun key => Attempt.Ensures.pure _ fun _ h => h

theorem executeReturningKey_settled (h : Core.Sound (u.core, w)) :
    Settled (u.executeReturningKey.apply w).2.2 := by
  have hrun := Handle.call_ready (K := []) (calling_onlyCalls .statement .executeUpdate D.executeUpdate)
  have hquiet := Handle.Quiet.bind hrun (fun w => ⟨_, rfl⟩) fun _ => Handle.withKeys_ready id firstKey_onlyCalls
  unfold executeReturningKey
  rw [Attempt.bind_apply_snd]
  · exact run_settled hquiet h
  · -- Whether there is a key is looked at when everything has been released.
    intro key s
    cases key with
    | some k => rfl
    | none   => rfl

theorem executeBatch_settled (h : Core.Sound (u.core, w)) : Settled (u.executeBatch.apply w).2.2 := by
  have hrun := Handle.call_ready (K := []) (calling_onlyCalls .statement .executeBatch D.executeBatch)
  refine run_settled (Handle.Quiet.bind hrun (fun w => ⟨_, rfl⟩) fun counts => ?_) h
  exact Attempt.Ensures.bind (Handle.withKeys_ready id allKeys_onlyCalls)
    fun keys => Attempt.Ensures.pure _ fun _ h => h

end Update

end NamedSql
