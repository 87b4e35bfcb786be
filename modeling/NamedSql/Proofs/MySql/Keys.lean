import NamedSql.Proofs.MySql.Batches

/-!
# `Proofs.MySql.Keys` — which generated keys a statement hands out

A statement keeps the keys of the last execution that succeeded, until they are handed out or the statement is
closed. An execution that fails does not touch them: after it, keys of an earlier execution can still be handed
out.

## Contents
- `Exchange.key?`, `Moment.keys`: the keys that a call generates. `lastExecution`.
- `Moment.restocks`, `stock`: the keys that are kept after some moments.
- **Step and run.** `keys_of_run` and `keys_of_runEntries` for executions that succeed; `Moment.after_generated`,
  `Stocked.step`.
- `stock_of_succeeded`: as long as executions succeed, the keys are those of the last one. `generatedKeys_stock`.
- `stale_key_handedOut`: a key that the last execution did not generate.
-/

namespace NamedSql.MySql

open Prepared

variable {τ : Type}

/-! ## Keys and executions -/

/-- The key that a request has generated, if there is one. -/
def Exchange.key? : Exchange → Option Int64
  | .ran _ _ (.ok reply) => insertedKey .generated reply.effect.2
  | _                    => none

namespace Moment

/-- Whether the call runs an update or a batch. -/
def executes (m : Moment τ) : Bool :=
  match m.call with
  | .executeUpdate | .executeBatch => true
  | _                              => false

/-- The keys that are generated during the call. -/
def keys (m : Moment τ) : List Int64 := m.exchanges.filterMap Exchange.key?

/-- Whether the call decides anew which keys are kept: an execution does if it succeeds, and the keys are given up
    when they are handed out and when the statement is closed. -/
def restocks (m : Moment τ) : Bool :=
  match m.call with
  | .executeUpdate | .executeBatch => m.answer.isOk
  | .generatedKeys | .close        => true
  | _                              => false

/-- The keys that are kept after such a call. -/
def stocked (m : Moment τ) : List Int64 := if m.executes then m.keys else []

theorem restocks_of_executes {m : Moment τ} (h : m.executes = true) : m.restocks = m.answer.isOk := by
  obtain ⟨n, c, s, p⟩ := m
  cases c with
  | executeUpdate => rfl
  | executeBatch  => rfl
  | _             => exact absurd h Bool.false_ne_true

end Moment

/-- The latest of some moments at which an update or a batch was run. -/
def lastExecution (ms : List (Moment τ)) : Option (Moment τ) := ms.reverse.find? Moment.executes

/-- The keys that are kept after some moments. -/
def stock (ms : List (Moment τ)) : List Int64 := ((ms.reverse.find? Moment.restocks).map Moment.stocked).getD []

theorem stock_concat (ms : List (Moment τ)) (m : Moment τ) :
    stock (ms ++ [m]) = if m.restocks then m.stocked else stock ms := by
  unfold stock
  rw [List.reverse_append, List.reverse_singleton, List.singleton_append, List.find?_cons]
  match m.restocks with
  | true  => rfl
  | false => rfl

/-! ## Steps and runs -/

/-- The keys of an update that succeeded: the one of its reply, if it has one. -/
theorem keys_of_run {server : Server τ} {s : Prepared (τ × List Exchange)} {p p' : Logged τ} {vs : List Value}
    {reply : Response} (hserver : s.session.server = server.logged) (hrun : (s.run vs).apply p = (.ok reply, p')) :
    ((log p').drop (log p).length).filterMap Exchange.key? = (insertedKey .generated reply.effect.2).toList := by
  have hopen : s.session.loan ∉ p.returned := by
    intro hclosed
    rw [run_of_closed hclosed] at hrun
    exact absurd (congrArg Prod.fst hrun) (by simp)
  obtain ⟨r, p'', hran, hlog, -⟩ := run_of_open hserver hopen vs
  obtain ⟨hr, rfl⟩ := Prod.mk.inj (hran.symm.trans hrun)
  cases r with
  | error fault => nomatch hr
  | ok reply'   =>
    obtain rfl : reply' = reply := Except.ok.inj hr
    rw [hlog, List.drop_left]
    cases hkey : insertedKey .generated reply'.effect.2 with
    | none   => simp [Exchange.key?, hkey]
    | some k => simp [Exchange.key?, hkey]

/-- The keys of a batch that succeeded are those of its replies. -/
theorem keys_of_runEntries {server : Server τ} {s : Prepared (τ × List Exchange)} {p p' : Logged τ}
    {effects : List (UInt64 × UInt64)} (hserver : s.session.server = server.logged)
    (hrun : (s.runEntries s.batch).apply p = (.ok effects, p')) :
    ((log p').drop (log p).length).filterMap Exchange.key?
      = effects.filterMap fun e => insertedKey .generated e.2 := by
  have hentries := runEntries_exchanges hserver id s.batch p
  rw [List.map_id, hrun] at hentries
  rcases hentries with ⟨done, p'', -, heq, hlog⟩ | ⟨done, e, rest, fault, p'', -, heq, -⟩ | ⟨-, -, heq⟩
  · obtain ⟨heffects, rfl⟩ := Prod.mk.inj heq
    obtain rfl := Except.ok.inj heffects
    rw [hlog, List.drop_left, List.filterMap_map, List.filterMap_map]
    rfl
  · exact absurd (congrArg Prod.fst heq) (by simp)
  · exact absurd (congrArg Prod.fst heq) (by simp)

/-- Which keys are kept after a call. -/
theorem Moment.after_generated {server : Server τ} (m : Moment τ)
    (hserver : m.statement.session.server = server.logged) (hkeys : m.statement.keys = .generated) :
    m.after.1.generated = if m.restocks then m.stocked else m.statement.generated := by
  obtain ⟨n, c, s, p⟩ := m
  have hdoes := Moment.does ⟨n, c, s, p⟩
  unfold restocks stocked keys exchanges executes answer after
  generalize outcome _ = out at hdoes ⊢
  -- What was exchanged matters only to an execution that succeeded.
  cases hdoes with
  | updated _ hrun =>
    have hkept := keys_of_run hserver hrun
    rw [← hkeys] at hkept
    exact hkept.symm
  | batchRun hrun =>
    have hkept := keys_of_runEntries hserver hrun
    rw [← hkeys] at hkept
    exact hkept.symm
  | _             => rfl

/-- A statement that captures keys, and keeps those in stock after some moments. -/
structure Stocked (server : Server τ) (before : List (Moment τ)) (s : Prepared (τ × List Exchange) × Logged τ) :
    Prop where
  server    : s.1.session.server = server.logged
  keys      : s.1.keys = .generated
  generated : s.1.generated = stock before

theorem Stocked.step {server : Server τ} (before : List (Moment τ)) (m : Moment τ)
    (h : Stocked server before (m.statement, m.pool)) : Stocked server (before ++ [m]) m.after := by
  have hsame : SameStatement m.statement m.after.1 := m.does.keeps.1
  refine ⟨?_, hsame.keys.trans h.keys, ?_⟩
  · rw [hsame.session]
    exact h.server
  · rw [m.after_generated h.server h.keys, stock_concat, ← h.generated]

/-- If the last execution has succeeded, the keys in stock are its keys, or there are none because they have been
    given up since. -/
theorem stock_of_succeeded {ms : List (Moment τ)} {x : Moment τ} (hlast : lastExecution ms = some x)
    (hok : x.answer.isOk = true) : stock ms = x.keys ∨ stock ms = [] := by
  unfold lastExecution at hlast
  unfold stock
  -- The induction goes back from the latest moment.
  generalize ms.reverse = past at hlast ⊢
  induction past with
  | nil => exact absurd hlast (Option.some_ne_none x).symm
  | cons m earlier ih =>
    rw [List.find?_cons] at hlast ⊢
    match hexecutes : m.executes with
    | true  =>
      rw [hexecutes] at hlast
      obtain rfl : m = x := Option.some.inj hlast
      rw [Moment.restocks_of_executes hexecutes, hok]
      refine .inl ?_
      show m.stocked = m.keys
      rw [Moment.stocked, if_pos hexecutes]
    | false =>
      rw [hexecutes] at hlast
      match hrestocks : m.restocks with
      | true  =>
        refine .inr ?_
        show m.stocked = []
        rw [Moment.stocked, if_neg (by simp [hexecutes])]
      | false => exact ih hlast

/-- **Which keys are handed out.** A statement that captures keys hands out those of the last execution that
    succeeded, if they have not been given up since. So if the last execution has succeeded, it has generated all of
    them. -/
theorem generatedKeys_stock (server : Server τ) (loan : Nat) (sql : String) (count : Nat) (p : Logged τ)
    (calls : List Prepared.Call) :
    ∀ before m after,
      moments 0 calls (Prepared.fresh ⟨server.logged, loan⟩ sql .generated count, p) = before ++ m :: after →
      m.call = .generatedKeys →
        m.answer = .ok (.cursor (.keys (Rows.ofKeys (stock before))))
          ∧ ∀ x, lastExecution before = some x → x.answer.isOk = true → ∀ k ∈ stock before, k ∈ x.keys := by
  intro before m after hms hcall
  have hbegin : Stocked server [] (Prepared.fresh ⟨server.logged, loan⟩ sql .generated count, p) := ⟨rfl, rfl, rfl⟩
  have hstocked := moments_invariant Stocked.step calls 0 hbegin hms
  refine ⟨?_, ?_⟩
  · rw [Moment.answer, Moment.outcome, hcall, make_generatedKeys, hstocked.generated]
    rfl
  · intro x hlast hok k hk
    rcases stock_of_succeeded hlast hok with hkeys | hnone
    · rwa [hkeys] at hk
    · rw [hnone] at hk
      exact absurd hk List.not_mem_nil

/-- The key of an update is handed out after it. -/
theorem generatedKeys_stock_afterUpdate :
    ∃ update after, moments 0 [.executeUpdate, .generatedKeys]
        (Prepared.fresh ⟨refusingServer.logged, 0⟩ "insert into t (a) values (1)" .generated 0, ⟨(false, []), 1, []⟩)
          = [update, after]
      ∧ after.call = .generatedKeys ∧ after.answer = .ok (.cursor (.keys (Rows.ofKeys (stock [update]))))
      ∧ stock [update] = [5] ∧ update.keys = [5] := by
  obtain ⟨hanswer, -⟩ := generatedKeys_stock refusingServer 0 "insert into t (a) values (1)" 0
    ⟨(false, []), 1, []⟩ [.executeUpdate, .generatedKeys] [_] _ [] rfl rfl
  exact ⟨_, _, rfl, rfl, hanswer, rfl, rfl⟩

/-- The second of two updates fails and generates no key, and then the key of the first one is handed out. -/
theorem stale_key_handedOut :
    ∃ first second third, moments 0 [.executeUpdate, .executeUpdate, .generatedKeys]
        (Prepared.fresh ⟨refusingServer.logged, 0⟩ "insert into t (a) values (1)" .generated 0, ⟨(false, []), 1, []⟩)
          = [first, second, third]
      ∧ lastExecution [first, second] = some second ∧ second.answer.isOk = false ∧ second.keys = []
      ∧ first.keys = [5] ∧ third.answer = .ok (.cursor (.keys (Rows.ofKeys [5]))) :=
  ⟨_, _, _, rfl, rfl, rfl, rfl, rfl, rfl⟩

end NamedSql.MySql
