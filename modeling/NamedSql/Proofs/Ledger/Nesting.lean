import NamedSql.Proofs.Ledger.Run

/-!
# `Proofs.Ledger.Nesting` — what is open stands on what it came from

A handle has three slots, and they are filled and emptied in several steps, each of which may fail. Whatever has
been done with it, a cursor is only there with the statement that opened it, and a statement only with a
connection; and what the slots hold is what is open.

## Contents
- `Kept.opened_iff`: an open object came from the one that it stands on, and from no other.
- `Handle.Nested`, and `Accounts.nested`: a handle that agrees with its ledger is nested.
- `Handle.run_nested`: so it is at each moment of a run.
-/

namespace NamedSql

open Ledger
open scoped List

variable {σ : Type} {D : Driver σ}

namespace Ledger

/-- An open object came from the one that it stands on, and from no other. -/
theorem Kept.opened_iff {L : Ledger} {S : List Object} (h : Kept L S) {o p : Object} (hop : [o, p] <:+: S)
    (source : Option Object) : .opened o source ∈ L ↔ source = some p := by
  induction h with
  | connected => exact absurd hop.length_le (by simp)
  | @opened L S q r h _ ih =>
    have hnew : ∀ source, Entry.opened ⟨r, L.length⟩ source ∉ L :=
      fun source hmem => h.fresh_not_mem r (mem_opens.mpr ⟨source, hmem⟩)
    rcases List.infix_cons_iff.mp hop with hfront | hbelow
    · -- The two in front are the new object and the one that handed it out.
      obtain ⟨rfl, hrest⟩ := List.cons_prefix_cons.mp hfront
      obtain ⟨rfl, -⟩ := List.cons_prefix_cons.mp hrest
      simp [hnew]
    · have hmem : o ∈ q :: S := hbelow.subset (List.mem_cons_self ..)
      have hold : o ≠ ⟨r, L.length⟩ := by
        rintro rfl
        exact h.fresh_not_mem r (h.mem_opens_of_mem hmem)
      simp [ih hbelow, hold]
  | called c _ _ ih => simpa using ih hop
  | closed _ ih => simpa using ih (hop.trans (List.suffix_cons ..).isInfix)

end Ledger

namespace Handle

/-- The slots of a handle are filled from the connection up, the cursor was opened by the statement that is there,
    and what the slots hold is what was handed out and has not been closed. -/
structure Nested (s : Handle D.audited × σ × Ledger) : Prop where
  onStatement  : s.1.cursor ≠ none → s.1.statement ≠ none
  onConnection : s.1.statement ≠ none → s.1.connection ≠ none
  /-- The statement that is there, and no earlier one, opened the cursor. -/
  source : ∀ c st, s.1.cursor = some c → s.1.statement = some st →
    ∀ source, .opened ⟨.cursor, c.1⟩ source ∈ s.2.2 ↔ source = some ⟨.statement, st.1⟩
  holds    : (outstanding s.2.2).Perm s.1.objects
  released : s.1.isReleased = true ↔ s.1.connection = none

theorem Accounts.nested {K : List Object} {s : Handle D.audited × σ × Ledger} (h : Accounts K s) : Nested s := by
  obtain ⟨⟨k, st, c⟩, w, L⟩ := s
  have hstatement : c ≠ none → st ≠ none := by
    rintro hc rfl
    obtain ⟨c, rfl⟩ := Option.ne_none_iff_exists'.mp hc
    have hbeneath : (connectionObject (D := D) ⟨k, none, some c⟩).map Object.resource = [.statement, .connection] :=
      Kept.beneath h.kept
    cases k with
    | none   => exact absurd hbeneath (by simp [connectionObject])
    | some k => exact absurd hbeneath (by simp [connectionObject])
  have hconnection : st ≠ none → k ≠ none := by
    rintro hst rfl
    obtain ⟨st, rfl⟩ := Option.ne_none_iff_exists'.mp hst
    cases c with
    | none   => exact absurd (Kept.beneath h.kept) (by simp [connectionObject, footing])
    | some c => exact absurd (Kept.beneath h.kept) (by simp [statementObject, connectionObject, footing])
  refine ⟨hstatement, hconnection, ?_, h.kept.outstanding_perm, ?_⟩
  · rintro c st (rfl : _ = some c) (rfl : _ = some st) source
    have hadjacent : [⟨.cursor, c.1⟩, ⟨.statement, st.1⟩] <:+: objects (D := D) ⟨k, some st, some c⟩ :=
      (List.prefix_append _ _).isInfix
    exact h.kept.opened_iff hadjacent source
  · -- Without a connection there is no statement, and without a statement no cursor.
    constructor
    · intro hreleased
      simp only [isReleased, Bool.and_eq_true, Option.isNone_iff_eq_none] at hreleased
      exact hreleased.1.1
    · rintro (rfl : k = none)
      obtain rfl : st = none := by
        by_contra hst
        exact hconnection hst rfl
      obtain rfl : c = none := by
        by_contra hc
        exact hstatement hc rfl
      rfl

/-- **What is open stands on what it came from.** After any uses of a handle, whichever calls of the driver fail,
    an open cursor stands on the statement that opened it, and a statement on a connection; the slots hold what was
    handed out and has not been closed; and a handle is released just if it has no connection. -/
theorem run_nested (k : D.Connection) (w : σ) (ops : List (Op D)) :
    Nested (ops.foldl (fun s op => op.perform s) (started k w)) := by
  have hstart : ∃ K, Accounts K (started k w) := ⟨[], (bare_ofConnection k w).toAccounts⟩
  obtain ⟨K, hacc⟩ := foldl_accounts ops hstart
  exact hacc.nested

end Handle

end NamedSql
