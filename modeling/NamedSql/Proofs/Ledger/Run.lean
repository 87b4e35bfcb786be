import NamedSql.Proofs.Ledger.Handle

/-!
# `Proofs.Ledger.Run` — whole runs of a handle

A run is any sequence of uses of one handle, and the drop of the handle at its end. Nothing is assumed of the
driver: each of its calls may fail at any time, a close too.

## Contents
- `Op`: one use of a handle; `Op.perform` does it, and `ledgerOfRun` is the ledger of a whole run.
- **Step and run.** `Op.perform_accounts` for one use, `foldl_accounts` for any number of them.
- `ledgerOfRun_kept`, and what it means: `run_closes_all`.
-/

namespace NamedSql.Handle

open Ledger
open scoped List

variable {σ : Type} {D : Driver σ}

/-- One use of a handle. What a caller does with the statement or the cursor that it is lent is left open, except
    that it makes nothing but calls on that object (`OnlyCalls`): it neither closes it nor opens another one. This
    is the contract under which a handle lends anything: connection, statement and cursor are held by the handle
    alone, and no other component may keep or close them. A caller who closed a statement on its own would have the
    handle close it again. -/
inductive Op (D : Driver σ) where
  | prepare (sql : String) (keys : KeyCapture)
  | openQuery (work : Attempt (D.audited.Cursor × σ × Ledger) Failure Unit) (only : OnlyCalls .cursor work)
  | openKeys (work : Attempt (D.audited.Cursor × σ × Ledger) Failure Unit) (only : OnlyCalls .cursor work)
  | onStatement (use : Attempt (D.audited.Statement × σ × Ledger) Failure Unit)
      (only : OnlyCalls .statement use)
  | cleanup

/-- Where a use of a handle leads, whether or not it succeeds. -/
def Op.perform (op : Op D) (s : Handle D.audited × σ × Ledger) : Handle D.audited × σ × Ledger :=
  match op with
  | .prepare sql keys  => ((Handle.prepare sql keys).apply s).2
  | .openQuery work _  => ((withQuery id work).apply s).2
  | .openKeys work _   => ((withKeys id work).apply s).2
  | .onStatement use _ => ((Handle.onStatement use).apply s).2
  | .cleanup           => (Handle.cleanup.apply s).2

/-- A handle on a connection that was just opened. -/
def started (k : D.Connection) (w : σ) : Handle D.audited × σ × Ledger :=
  (ofConnection (0, k), w, [.opened ⟨.connection, 0⟩ none])

/-- The ledger of a run: a connection is opened, its handle is used in some ways and then let go. -/
def ledgerOfRun (k : D.Connection) (w : σ) (ops : List (Op D)) : Ledger :=
  let s := ops.foldl (fun s op => op.perform s) (started k w)
  (s.1.discard s.2).2

/-! ## Steps and runs -/

theorem Op.perform_accounts (op : Op D) {s : Handle D.audited × σ × Ledger} (h : ∃ K, Accounts K s) :
    ∃ K, Accounts K (op.perform s) := by
  cases op with
  | prepare sql keys => exact (prepare_accounts sql keys).state h
  | openQuery work only => exact (withCursor_accounts .executeQuery D.executeQuery only).state h
  | openKeys work only => exact (withCursor_accounts .generatedKeys D.generatedKeys only).state h
  | onStatement use only =>
    obtain ⟨K, hacc⟩ := h
    exact ⟨K, (onStatement_accounts only).state hacc⟩
  | cleanup =>
    obtain ⟨K, hacc⟩ := h
    exact ⟨_, (cleanup_kept hacc).1.toAccounts⟩

theorem foldl_accounts (ops : List (Op D)) {s : Handle D.audited × σ × Ledger} (h : ∃ K, Accounts K s) :
    ∃ K, Accounts K (ops.foldl (fun s op => op.perform s) s) := by
  induction ops generalizing s with
  | nil => exact h
  | cons op ops ih => exact ih (op.perform_accounts h)

/-- After a run nothing is open. -/
theorem ledgerOfRun_kept (k : D.Connection) (w : σ) (ops : List (Op D)) : Kept (ledgerOfRun k w ops) [] := by
  have hstart : ∃ K, Accounts K (started k w) := ⟨[], (bare_ofConnection k w).toAccounts⟩
  obtain ⟨K, hacc⟩ := foldl_accounts ops hstart
  exact (cleanup_kept hacc).2

/-- **Everything is closed once, and in order.** Whatever a handle is used for and whichever calls of the
    driver fail: every object that the driver handed out is closed exactly once, and nothing else is closed;
    what came from an object is closed before it, and the connection is closed after everything else; and at
    no moment more than one object of a kind is open. -/
theorem run_closes_all (k : D.Connection) (w : σ) (ops : List (Op D)) :
    let L := ledgerOfRun k w ops
    (opens L).Nodup ∧ (∀ o, (closes L).count o = if o ∈ opens L then 1 else 0)
      ∧ (∀ o p, .opened o (some p) ∈ L → [.closed o, .closed p] <+ L)
      ∧ (∃ c ∈ opens L, c.resource = .connection
          ∧ ∀ o ∈ opens L, o.resource ≠ .connection → [.closed o, .closed c] <+ L)
      ∧ ∀ P, P <+: L → ∀ r, (outstanding P).countP (·.resource = r) ≤ 1 := by
  intro L
  have hkept : Kept L [] := ledgerOfRun_kept k w ops
  have hperm : (opens L).Perm (closes L) := hkept.perm
  refine ⟨hkept.nodup_opens, ?_, ?_, ?_, ?_⟩
  · -- Nothing is open after the run, so what was handed out and what was closed are the same.
    intro o
    by_cases ho : o ∈ opens L
    · rw [if_pos ho]
      exact List.count_eq_one_of_mem (hperm.nodup_iff.mp hkept.nodup_opens) (hperm.mem_iff.mp ho)
    · rw [if_neg ho]
      exact List.count_eq_zero.mpr fun hc => ho (hperm.mem_iff.mpr hc)
  · intro o p hsource
    have hp : p ∈ opens L := hkept.source_mem hsource
    exact hkept.closed_before_source hsource (mem_closes.mp (hperm.mem_iff.mp hp))
  · refine ⟨⟨.connection, 0⟩, hkept.connection_mem, rfl, ?_⟩
    intro o ho hne
    exact hkept.before_connection ho fun heq => hne (congrArg Object.resource heq)
  · intro P hprefix r
    exact hkept.count_outstanding_prefix_le hprefix r

end NamedSql.Handle
