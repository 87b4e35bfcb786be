import NamedSql.Proofs.Ledger.Life
import NamedSql.Proofs.Ledger.Run

/-!
# `Proofs.Ledger.Directed` — no call on what is not open

Every call goes to an object that has been handed out and has not been closed. That is a property of ledgers that
were kept, and a handle that agrees with its ledger keeps agreeing with it whatever is done with it, so it holds
at each moment in the life of a query or an update.

## Contents
- `Entry.target`, `Directed`, and `Kept.directed`.
- `Handle.Accounted`; `Handle.KeepsAccount`, for operations, and those that statements are run with.
- `Core.Accounted`, with what binds values (`callsKeep_accounted`), runs a statement (`finish_accounted`) and
  prepares one (`prepare_accounted`).
- **Step and run.** `After.Ends.directed` for one call, `traceFrom_ledgers` for all of them, and
  `Life.trace_directed`.
-/

namespace NamedSql

open Ledger

variable {σ ε ε' α β M S : Type} {D : Driver σ}

/-! ## Directed ledgers -/

namespace Ledger

/-- The object that an event happens to. An object is handed out by the one that it comes from. -/
def Entry.target : Entry → Option Object
  | .opened _ source => source
  | .called o _      => some o
  | .closed o        => some o

/-- Each event happens to an object that was handed out before it and has not been closed before it. -/
def Directed (L : Ledger) : Prop :=
  ∀ before e after, L = before ++ e :: after → ∀ o, e.target = some o → o ∈ outstanding before

theorem Directed.nil : Directed [] := by
  intro before e after heq
  exact absurd heq (by simp)

theorem Directed.concat {L : Ledger} (h : Directed L) {e : Entry}
    (he : ∀ o, e.target = some o → o ∈ outstanding L) : Directed (L ++ [e]) := by
  intro before e' after heq
  -- The event in question is the last one or one of before.
  rcases List.eq_nil_or_concat after with rfl | ⟨after, e'', rfl⟩
  · obtain ⟨rfl, hlast⟩ := List.append_inj' heq rfl
    obtain rfl : e = e' := List.head_eq_of_cons_eq hlast
    exact he
  · have hsplit : L ++ [e] = (before ++ e' :: after) ++ [e''] := by rw [heq]; simp
    obtain ⟨hL, -⟩ := List.append_inj' hsplit rfl
    exact h before e' after hL

theorem Kept.directed {L : Ledger} {T : List Object} (h : Kept L T) : Directed L := by
  induction h with
  | connected =>
    refine Directed.nil.concat ?_
    intro o ho
    exact absurd ho (Option.some_ne_none o).symm
  | opened r h _ ih =>
    refine ih.concat ?_
    intro o ho
    obtain rfl := Option.some.inj ho
    exact h.outstanding_perm.mem_iff.mpr (List.mem_cons_self ..)
  | called c h hmem ih =>
    refine ih.concat ?_
    intro o ho
    obtain rfl := Option.some.inj ho
    exact h.outstanding_perm.mem_iff.mpr hmem
  | closed h ih =>
    refine ih.concat ?_
    intro o ho
    obtain rfl := Option.some.inj ho
    exact h.outstanding_perm.mem_iff.mpr (List.mem_cons_self ..)

end Ledger

/-! ## Handles -/

namespace Handle

/-- A handle that agrees with its ledger, whatever has been closed. -/
def Accounted (s : Handle D.audited × σ × Ledger) : Prop := ∃ K, Accounts K s

theorem Accounted.directed {s : Handle D.audited × σ × Ledger} (h : Accounted s) : Directed s.2.2 := by
  obtain ⟨K, hacc⟩ := h
  exact hacc.kept.directed

theorem Accounted.cleanup {s : Handle D.audited × σ × Ledger} (h : Accounted s) :
    Accounted (cleanup.apply s).2 := by
  obtain ⟨K, hacc⟩ := h
  exact ⟨_, (cleanup_kept hacc).1.toAccounts⟩

/-- An operation after which a handle agrees with its ledger if it did before, also if the operation fails. -/
def KeepsAccount (x : Attempt (Handle D.audited × σ × Ledger) ε α) : Prop :=
  Attempt.Ensures Accounted x (fun _ s => Accounted s) (fun _ s => Accounted s)

namespace KeepsAccount

theorem pure (a : α) : KeepsAccount (Pure.pure a : Attempt (Handle D.audited × σ × Ledger) ε α) :=
  Attempt.Ensures.pure a fun _ h => h

theorem bind {x : Attempt (Handle D.audited × σ × Ledger) ε α}
    {f : α → Attempt (Handle D.audited × σ × Ledger) ε β} (hx : KeepsAccount x) (hf : ∀ a, KeepsAccount (f a)) :
    KeepsAccount (x >>= f) :=
  Attempt.Ensures.bind hx hf

theorem reword {x : Attempt (Handle D.audited × σ × Ledger) ε α} (f : ε → ε') (hx : KeepsAccount x) :
    KeepsAccount (x.reword f) :=
  Attempt.Ensures.reword hx fun _ _ h => h

end KeepsAccount

section
variable {x : Attempt (D.audited.Statement × σ × Ledger) Failure α} (hx : OnlyCalls .statement x)
include hx

theorem onStatement_keepsAccount : KeepsAccount (onStatement x) := by
  rintro s ⟨K, hacc⟩
  exact ((onStatement_accounts hx).mono (fun _ _ h => ⟨K, h⟩) fun _ _ h => ⟨K, h⟩) s hacc

theorem call_keepsAccount : KeepsAccount (call x) := by
  refine call_ensures ((onStatement_keepsAccount hx).mono ?_ fun _ _ h => h)
  intro r s hs
  cases r with
  | ok a    => exact hs
  | error f => exact hs

end

section
variable (wrap : Failure → ε) {work : Attempt (D.audited.Cursor × σ × Ledger) ε α}
  (hwork : OnlyCalls .cursor work)
include hwork

theorem withQuery_keepsAccount : KeepsAccount (withQuery wrap work) :=
  withCursor_accounts .executeQuery D.executeQuery hwork

theorem withKeys_keepsAccount : KeepsAccount (withKeys wrap work) :=
  withCursor_accounts .generatedKeys D.generatedKeys hwork

end

end Handle

/-! ## Statements -/

namespace Core

/-- A statement whose handle agrees with its ledger. -/
def Accounted (s : Core D.audited × σ × Ledger) : Prop := Handle.Accounted (s.1.handle, s.2)

theorem giveUp_accounted (e : Error) :
    Attempt.Ensures (Accounted (D := D) (σ := σ)) (giveUp e : Attempt _ Error α) (fun _ _ => False)
      (fun _ s => Accounted s) := by
  intro s hs
  exact Handle.Accounted.cleanup hs

theorem callsKeep_accounted : CallsKeep (Accounted (D := D) (σ := σ)) Accounted :=
  .of_parts
    (fun slot v => onHandle_ensures
      (Handle.onStatement_keepsAccount (calling_onlyCalls .statement .bind (D.bind slot v))))
    (onHandle_ensures (Handle.onStatement_keepsAccount (calling_onlyCalls .statement .addBatch D.addBatch)))
    fun e => giveUp_accounted e

theorem finish_accounted {x : Attempt (Handle D.audited × σ × Ledger) ε α} (hx : Handle.KeepsAccount x)
    (wrap : String → ε → ε') (ofRelease : Error → ε') {s : Core D.audited × σ × Ledger} (h : Accounted s) :
    Accounted ((finish wrap ofRelease x).apply s).2 := by
  obtain ⟨c, w⟩ := s
  exact Handle.Accounted.cleanup (hx.state h)

theorem prepare_accounted (k : D.audited.Connection) (text : String) (keys : KeyCapture) :
    Attempt.Ensures (fun s : σ × Ledger => Handle.Bare [] (Handle.ofConnection k, s)) (prepare k text keys)
      (fun c s => Accounted (c, s)) (fun _ s => Directed s.2) := by
  refine prepare_ensures ((Handle.prepareNext_accounts _ keys).mono ?_ ?_)
  · intro u s hready
    exact ⟨[], hready.toAccounts⟩
  · intro e s hidle
    have hend : Handle.Accounted (Handle.cleanup.apply s).2 := Handle.Accounted.cleanup ⟨[], hidle.toAccounts⟩
    exact hend.directed

end Core

/-! ## Running -/

namespace Select

variable {s : Select D.audited α} {w : σ × Ledger}

theorem run_directed {x : Attempt (Handle D.audited × σ × Ledger) (Halt Failure) β} (hx : Handle.KeepsAccount x)
    (h : Core.Accounted (s.core, w)) : Directed ((s.run x).apply w).2.2 := by
  rw [run_apply]
  exact Handle.Accounted.directed (Core.finish_accounted hx whileExecuting .failed h)

theorem execute_directed (hm : ∀ n c, OnlyReads c.1 (s.mapper n c)) (h : Core.Accounted (s.core, w)) :
    Directed (s.execute.apply w).2.2 := by
  have hlimit := Handle.call_keepsAccount (calling_onlyCalls .statement .setMaxRows (D.setMaxRows (some 1)))
  have hrow := Handle.withQuery_keepsAccount Halt.failed (firstRow_onlyCalls hm)
  show Directed ((s.run _ >>= _).apply w).2.2
  rw [Attempt.bind_apply_snd fun _ _ => rfl]
  exact run_directed ((hlimit.reword Halt.failed).bind fun _ => hrow) h

theorem executeForAll_directed (hm : ∀ n c, OnlyReads c.1 (s.mapper n c)) (h : Core.Accounted (s.core, w)) :
    Directed (s.executeForAll.apply w).2.2 :=
  run_directed (Handle.withQuery_keepsAccount Halt.failed (collect_onlyCalls hm 1)) h

theorem executeScalar_directed {s : Select D.audited (Option α)} (hm : ∀ n c, OnlyReads c.1 (s.mapper n c))
    (h : Core.Accounted (s.core, w)) : Directed (s.executeScalar.apply w).2.2 := by
  show Directed ((({ s with default := none } : Select D.audited (Option α)).execute >>= _).apply w).2.2
  rw [Attempt.bind_apply_snd fun _ _ => rfl]
  exact execute_directed hm h

end Select

namespace Update

variable {u : Update D.audited} {w : σ × Ledger}

theorem run_directed {x : Attempt (Handle D.audited × σ × Ledger) Failure β} (hx : Handle.KeepsAccount x)
    (h : Core.Accounted (u.core, w)) : Directed ((u.run x).apply w).2.2 :=
  Handle.Accounted.directed (Core.finish_accounted hx .execute id h)

theorem execute_directed (h : Core.Accounted (u.core, w)) : Directed (u.execute.apply w).2.2 := by
  have hrun := Handle.call_keepsAccount (calling_onlyCalls .statement .executeUpdate D.executeUpdate)
  have hkey := Handle.withKeys_keepsAccount (D := D) id firstKey_onlyCalls
  exact run_directed (hrun.bind fun count => hkey.bind fun key => .pure (key.getD count)) h

theorem executeReturningKey_directed (h : Core.Accounted (u.core, w)) :
    Directed (u.executeReturningKey.apply w).2.2 := by
  have hrun := Handle.call_keepsAccount (calling_onlyCalls .statement .executeUpdate D.executeUpdate)
  have hkey := Handle.withKeys_keepsAccount (D := D) id firstKey_onlyCalls
  unfold executeReturningKey
  rw [Attempt.bind_apply_snd]
  · exact run_directed (hrun.bind fun _ => hkey) h
  · -- Whether there is a key is looked at when everything has been released.
    intro key s
    cases key with
    | some k => rfl
    | none   => rfl

theorem executeBatch_directed (h : Core.Accounted (u.core, w)) : Directed (u.executeBatch.apply w).2.2 := by
  have hrun := Handle.call_keepsAccount (calling_onlyCalls .statement .executeBatch D.executeBatch)
  have hkeys := Handle.withKeys_keepsAccount (D := D) id allKeys_onlyCalls
  exact run_directed (hrun.bind fun counts => hkeys.bind fun keys => .pure (if keys.isEmpty then counts else keys)) h

end Update

/-! ## Steps and lives -/

/-- A query whose handle agrees with its ledger, and whose mapper only reads from the cursor. -/
def Select.Accounted (s : Select D.audited α) (w : σ × Ledger) : Prop :=
  Core.Accounted (s.core, w) ∧ ∀ n c, OnlyReads c.1 (s.mapper n c)

theorem Select.Ending.perform_directed : ∀ {α : Type} (e : Select.Ending α) (s : Select D.audited α)
    (w : σ × Ledger), s.Accounted w → Directed (e.perform s w).2.2
  | _, .execute, s, w, h       => Life.ended_snd s.execute w ▸ Select.execute_directed h.2 h.1
  | _, .executeForAll, s, w, h => Life.ended_snd s.executeForAll w ▸ Select.executeForAll_directed h.2 h.1
  | _, .executeScalar, s, w, h => Life.ended_snd s.executeScalar w ▸ Select.executeScalar_directed h.2 h.1
  | _, .drop, _, _, h          => (Handle.Accounted.cleanup h.1).directed

theorem Update.Ending.perform_directed (e : Update.Ending) (u : Update D.audited) (w : σ × Ledger)
    (h : Core.Accounted (u.core, w)) : Directed (e.perform u w).2.2 := by
  cases e with
  | execute             => exact Life.ended_snd u.execute w ▸ Update.execute_directed h
  | executeReturningKey => exact Life.ended_snd u.executeReturningKey w ▸ Update.executeReturningKey_directed h
  | executeBatch        => exact Life.ended_snd u.executeBatch w ▸ Update.executeBatch_directed h
  | drop                => exact (Handle.Accounted.cleanup h).directed

namespace Life

/-- What `P` holds of before each call, and `R` of the ledger after it, holds of each moment of a trace. -/
theorem traceFrom_ledgers {P : S → σ × Ledger → Prop} {R : Ledger → Prop}
    {perform : M → S → σ × Ledger → After S (σ × Ledger)} {ending : S → σ × Ledger → Bool × (σ × Ledger)}
    (hstep : ∀ m s w, P s w → R (perform m s w).world.2
      ∧ ∀ s', (perform m s w).rest = some s' → P s' (perform m s w).world)
    (hend : ∀ s w, P s w → R (ending s w).2.2) (ms : List M) {s : S} {w : σ × Ledger} (h : P s w) :
    ∀ m ∈ traceFrom perform ending ms s w, R m.ledger := by
  induction ms generalizing s w with
  | nil =>
    intro m hm
    rw [List.mem_singleton.mp hm]
    exact hend s w h
  | cons a ms ih =>
    obtain ⟨hledger, hrest⟩ := hstep a s w h
    intro m hm
    rcases List.mem_cons.mp hm with rfl | hm
    · exact hledger
    · match hleft : (perform a s w).rest with
      | none    =>
        rw [hleft] at hm
        exact absurd hm List.not_mem_nil
      | some s' =>
        rw [hleft] at hm
        exact ih (hrest s' hleft) m hm

/-- After a call on a statement whose handle agrees with its ledger, it still does. -/
theorem After.Ends.directed [HasCore D.audited S] {s : S} {a : After S (σ × Ledger)}
    (h : a.Ends Core.Accounted Core.Accounted s) :
    Directed a.world.2
      ∧ ∀ s', a.rest = some s' → ∃ c, s' = HasCore.withCore s c ∧ Core.Accounted (c, a.world) := by
  cases h with
  | kept c w hacc =>
    refine ⟨Handle.Accounted.directed hacc, ?_⟩
    intro s' hs'
    exact ⟨c, (Option.some.inj hs').symm, hacc⟩
  | failed c w hacc =>
    refine ⟨Handle.Accounted.directed hacc, ?_⟩
    intro s' hs'
    exact ⟨c, (Option.some.inj hs').symm, hacc⟩
  | usedUp c w hacc =>
    have hend : Handle.Accounted (Handle.cleanup.apply (c.handle, w)).2 := Handle.Accounted.cleanup hacc
    refine ⟨hend.directed, ?_⟩
    intro s' hs'
    exact absurd hs' (Option.some_ne_none s').symm

end Life

theorem Select.Move.perform_directed (m : Select.Move α) (s : Select D.audited α) (w : σ × Ledger)
    (h : s.Accounted w) : Directed (m.perform s w).world.2
      ∧ ∀ s', (m.perform s w).rest = some s' → s'.Accounted (m.perform s w).world := by
  cases m with
  | withDefault x =>
    refine ⟨Handle.Accounted.directed h.1, ?_⟩
    rintro s' hs'
    obtain rfl : s.withDefault x = s' := Option.some.inj hs'
    exact h
  | bind b =>
    obtain ⟨hledger, hrest⟩ := (b.perform_ends (S := Select D.audited α) Core.callsKeep_accounted h.1).directed
    refine ⟨hledger, ?_⟩
    intro s' hs'
    obtain ⟨c, rfl, hacc⟩ := hrest s' hs'
    exact ⟨hacc, h.2⟩

theorem Update.Move.perform_directed (m : Update.Move) (u : Update D.audited) (w : σ × Ledger)
    (h : Core.Accounted (u.core, w)) : Directed (m.perform u w).world.2
      ∧ ∀ u', (m.perform u w).rest = some u' → Core.Accounted (u'.core, (m.perform u w).world) := by
  obtain ⟨hledger, hrest⟩ := (m.perform_ends Core.callsKeep_accounted h).directed
  refine ⟨hledger, ?_⟩
  intro u' hu'
  obtain ⟨c, rfl, hacc⟩ := hrest u' hu'
  exact hacc

/-- In the life of a query or an update no call goes to an object that is not open. -/
theorem Life.trace_directed (life : Life D) (w : σ) : ∀ m ∈ life.trace w, Directed m.ledger := by
  cases life with
  | select origin sql mapper moves ending =>
    have hbegin := origin.select_ensures Core.prepare_accounted (fun _ => Directed.nil) sql mapper
      (w, origin.ledger) rfl
    unfold trace
    simp only
    match hs : (origin.select sql mapper).apply (w, origin.ledger) with
    | (.error e, w') =>
      rw [hs] at hbegin
      intro m hm
      rw [List.mem_singleton.mp hm]
      exact hbegin
    | (.ok s, w')    =>
      rw [hs] at hbegin
      intro m hm
      rcases List.mem_cons.mp hm with rfl | hm
      · exact Handle.Accounted.directed hbegin.1
      · exact traceFrom_ledgers Select.Move.perform_directed ending.perform_directed moves hbegin m hm
  | update origin sql moves ending =>
    have hbegin := origin.update_ensures Core.prepare_accounted (fun _ => Directed.nil) sql (w, origin.ledger) rfl
    unfold trace
    simp only
    match hu : (origin.update sql).apply (w, origin.ledger) with
    | (.error e, w') =>
      rw [hu] at hbegin
      intro m hm
      rw [List.mem_singleton.mp hm]
      exact hbegin
    | (.ok u, w')    =>
      rw [hu] at hbegin
      intro m hm
      rcases List.mem_cons.mp hm with rfl | hm
      · exact Handle.Accounted.directed hbegin
      · exact traceFrom_ledgers Update.Move.perform_directed ending.perform_directed moves hbegin m hm

end NamedSql
