import NamedSql.Proofs.Ledger.Handle
import NamedSql.Proofs.Statement.Calls

/-!
# `Proofs.Ledger.Statement` — what statements do to the objects they own

A statement owns a handle. As long as nothing has gone wrong the handle has a connection, a prepared statement
and no cursor, and nothing has been closed (`Ready`); after the first failure everything has been closed, and
the ledger is settled (`Gone`). There is no third state, and no call leads to one.

## Contents
- `Settled`, and that a cleanup settles what has not been closed (`Accounts.cleanup_settled`).
- `Handle.Gone`, and `Handle.Sound` for the two states together; `Core.Sound`, `Core.Gone`.
- **Binding.** `callsKeep_sound`: the statement is sound after each call that binds a value or queues an entry,
  and gone if it failed.
- **Running.** `Handle.Quiet`, the operations that close nothing of their own, and `finish_gone` for what
  follows one of them.
- **Preparing.** `prepare_sound`; `connect_ensures` for a connection from the registry.
-/

namespace NamedSql

open Ledger

variable {σ ε ε' α : Type} {D : Driver σ}

/-! ## Settled ledgers -/

namespace Ledger

/-- Every object that was handed out has been closed exactly once, and the closes came in the order cursor,
    statement, connection. -/
structure Settled (L : Ledger) : Prop where
  distinct : (opens L).Nodup
  once     : (closes L).Perm (opens L)
  order    : (closes L).map Object.resource <:+ [.cursor, .statement, .connection]

theorem Settled.nil : Settled [] := ⟨List.nodup_nil, List.Perm.nil, List.nil_suffix⟩

end Ledger

namespace Handle

/-- The first closes of a ledger, all at once and in order, settle it. -/
theorem Accounts.cleanup_settled {s : Handle D.audited × σ × Ledger} (h : Accounts [] s) :
    Settled (cleanup.apply s).2.2.2 := by
  obtain ⟨k, w, L⟩ := s
  obtain ⟨w', hend⟩ := cleanup_apply k w L
  have hkept : Kept L k.objects := h.kept
  have hopens : opens L = k.objects.reverse := hkept.opens_of_closes_eq_nil h.closed
  have hcloses : closes (L ++ k.objects.map .closed) = k.objects := by
    rw [closes_append, closes_map_closed]
    exact congrArg (· ++ k.objects) h.closed
  have hopens' : opens (L ++ k.objects.map .closed) = k.objects.reverse := by
    rw [opens_append, opens_map_closed, List.append_nil, hopens]
  -- Nothing was closed before, so the objects of the handle are all that there were.
  rw [hend]
  refine ⟨?_, ?_, ?_⟩
  · show (opens (L ++ k.objects.map .closed)).Nodup
    rw [hopens', ← hopens]
    exact hkept.nodup_opens
  · show (closes (L ++ k.objects.map .closed)).Perm (opens (L ++ k.objects.map .closed))
    rw [hcloses, hopens']
    exact (List.reverse_perm _).symm
  · show (closes (L ++ k.objects.map .closed)).map Object.resource <:+ _
    rw [hcloses]
    exact hkept.resources

theorem cleanup_owns_nothing (s : Handle D.audited × σ × Ledger) :
    (cleanup.apply s).2.1 = ⟨none, none, none⟩ := by
  obtain ⟨w', hend⟩ := cleanup_apply s.1 s.2.1 s.2.2
  exact congrArg Prod.fst hend

/-- A handle that has released everything. -/
structure Gone (s : Handle D.audited × σ × Ledger) : Prop where
  empty   : s.1 = ⟨none, none, none⟩
  settled : Settled s.2.2

/-- A handle of a statement between two calls. -/
def Sound (s : Handle D.audited × σ × Ledger) : Prop := Ready [] s ∨ Gone s

theorem Accounts.cleanup_gone {s : Handle D.audited × σ × Ledger} (h : Accounts [] s) :
    Gone (cleanup.apply s).2 := ⟨cleanup_owns_nothing s, h.cleanup_settled⟩

theorem Gone.cleanup {s : Handle D.audited × σ × Ledger} (h : Gone s) : Gone (cleanup.apply s).2 := by
  rw [cleanup_empty h.empty]
  exact h

/-- A cleanup releases everything, if that has not been done. -/
theorem Sound.cleanup {s : Handle D.audited × σ × Ledger} (h : Sound s) : Gone (cleanup.apply s).2 := by
  rcases h with hready | hgone
  · exact hready.cleanup_gone
  · exact hgone.cleanup

theorem onStatement_sound {x : Attempt (D.audited.Statement × σ × Ledger) Failure α}
    (hx : OnlyCalls .statement x) :
    Attempt.Ensures Sound (onStatement x) (fun _ s => Sound s) (fun _ s => Gone s) := by
  rintro s (hready | hgone)
  · exact ((onStatement_ready hx).mono (fun _ _ h => Or.inl h) fun _ _ hfalse => hfalse.elim) s hready
  · obtain ⟨k, w⟩ := s
    obtain rfl : k = ⟨none, none, none⟩ := hgone.empty
    exact hgone

/-- An operation that closes nothing of its own: not on a handle that is ready, and it does nothing at all on
    one that is empty. -/
structure Quiet (x : Attempt (Handle D.audited × σ × Ledger) ε α) : Prop where
  ready : Attempt.Ensures (Ready []) x (fun _ s => Accounts [] s) (fun _ s => Accounts [] s)
  empty : ∀ w, (x.apply (⟨none, none, none⟩, w)).2 = (⟨none, none, none⟩, w)

/-- The cleanup after an operation settles the ledger. -/
theorem Quiet.cleanup_gone {x : Attempt (Handle D.audited × σ × Ledger) ε α} (hx : Quiet x)
    {s : Handle D.audited × σ × Ledger} (h : Sound s) : Gone (cleanup.apply (x.apply s).2).2 := by
  rcases h with hready | hgone
  · exact (hx.ready.state hready).cleanup_gone
  · obtain ⟨k, w⟩ := s
    obtain rfl : k = ⟨none, none, none⟩ := hgone.empty
    rw [hx.empty]
    exact hgone.cleanup

end Handle

namespace Core

/-! ## Binding -/

/-- A statement between two calls. -/
def Sound (s : Core D.audited × σ × Ledger) : Prop := Handle.Sound (s.1.handle, s.2)

/-- A statement that has released everything. -/
def Gone (s : Core D.audited × σ × Ledger) : Prop := Handle.Gone (s.1.handle, s.2)

theorem Gone.sound {s : Core D.audited × σ × Ledger} (h : Gone s) : Sound s := Or.inr h

theorem giveUp_gone (e : Error) :
    Attempt.Ensures (Sound (D := D) (σ := σ)) (giveUp e : Attempt _ Error α) (fun _ _ => False)
      (fun _ s => Gone s) := by
  intro s hs
  exact Handle.Sound.cleanup hs

theorem callsKeep_sound : CallsKeep (Sound (D := D) (σ := σ)) Gone :=
  .of_parts
    (fun slot v => onHandle_ensures
      (Handle.onStatement_sound (calling_onlyCalls .statement .bind (D.bind slot v))))
    (onHandle_ensures (Handle.onStatement_sound (calling_onlyCalls .statement .addBatch D.addBatch)))
    fun e => giveUp_gone e

/-! ## Running -/

/-- However an operation went, everything is released after it. -/
theorem finish_gone {x : Attempt (Handle D.audited × σ × Ledger) ε α} (hx : Handle.Quiet x)
    (wrap : String → ε → ε') (ofRelease : Error → ε') {s : Core D.audited × σ × Ledger} (h : Sound s) :
    Gone ((finish wrap ofRelease x).apply s).2 := by
  obtain ⟨c, w⟩ := s
  exact hx.cleanup_gone h

/-! ## Preparing -/

/-- A statement that could not be prepared has closed its connection. -/
theorem prepare_sound (k : D.audited.Connection) (text : String) (keys : KeyCapture) :
    Attempt.Ensures (fun s : σ × Ledger => Handle.Bare [] (Handle.ofConnection k, s)) (prepare k text keys)
      (fun c s => Sound (c, s)) (fun _ s => Settled s.2) :=
  prepare_ensures ((Handle.prepareNext_accounts _ keys).mono (fun _ _ hready => Or.inl hready)
    fun _ _ hidle => hidle.cleanup_settled)

/-- A statement whose connection could not be opened enters nothing, and otherwise it is prepared on a connection
    that was just opened. -/
theorem connect_ensures {P : Core D.audited × σ × Ledger → Prop} {E : σ × Ledger → Prop}
    (hprepare : ∀ k text keys, Attempt.Ensures
      (fun s : σ × Ledger => Handle.Bare (D := D) [] (Handle.ofConnection k, s)) (prepare k text keys)
      (fun c s => P (c, s)) (fun _ => E))
    (hnone : ∀ w, E (w, [])) (r : Registry D) (name : Option String) (text : String) (keys : KeyCapture) :
    Attempt.Ensures (fun s : σ × Ledger => s.2 = []) (connect r.audited name text keys) (fun c s => P (c, s))
      (fun _ => E) := by
  show Attempt.Ensures _ (r.audited.connect name >>= fun k => prepare k text keys) _ _
  rintro ⟨w, L⟩ (rfl : L = [])
  rw [Attempt.bind_apply, Registry.audited_connect_apply]
  match (r.connect name).apply w with
  | (.error e, w') => exact hnone w'
  | (.ok k, w')    => exact hprepare _ text keys _ (Handle.bare_ofConnection k w')

end Core

end NamedSql
