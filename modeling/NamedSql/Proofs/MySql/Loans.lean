import NamedSql.Proofs.MySql.Calls

/-!
# `Proofs.MySql.Loans` — a connection is given back once

A session and the statements prepared on it use one connection on loan. The session may be closed any number of
times and let go at any time, also while statements are still there; the connection is given back the first time,
and nobody reaches the server over it after that.

## Contents
- `Scene`, `Use`, `Use.perform`, `performAll`: a session with its statements, and what is done with them.
- `Scene.Shares`: all of them use one loan.
- **After the end of a loan.** `fetch_of_closed` and its like; `Does.stays`: a call reaches nothing.
  `Scene.Silent`, what is left to say of a session then.
- **Step and run.** `Use.Does`, what may become of a session and its statements, and `Use.perform_does`; then what
  each use keeps (`Does.shares`, `Does.count_le`, `Does.still`), and what all of them together do
  (`performAll_shares` and its like).
- `given_back_once`.
-/

namespace NamedSql.MySql

open Prepared

variable {τ : Type} {loan : Nat}

/-! ## Sessions and their statements -/

/-- A session, as long as it has not been let go, and the statements that were prepared on it. -/
structure Scene (τ : Type) where
  session    : Option (Session τ)
  statements : List (Prepared τ)
  pool       : Pooled τ

/-- What is done with a session or with one of its statements. -/
inductive Use where
  | prepare (sql : String) (keys : KeyCapture)
  | close | drop
  | call (index : Nat) (c : Prepared.Call)

namespace Use

/-- Whether the connection is given up. -/
def ends : Use → Bool
  | .close | .drop => true
  | _              => false

/-- Does something with a session or a statement, if it is still there. -/
def perform (u : Use) (x : Scene τ) : Scene τ :=
  match u, x.session with
  | .prepare sql keys, some s =>
    match ((driver τ).prepare sql keys).apply (s, x.pool) with
    | (.ok st, s', p')   => ⟨some s', x.statements ++ ([st] : List (Prepared τ)), p'⟩
    | (.error _, s', p') => ⟨some s', x.statements, p'⟩
  | .close, some s =>
    let (_, s', p') := (driver τ).closeConnection.apply (s, x.pool)
    ⟨some s', x.statements, p'⟩
  | .drop, some s => ⟨none, x.statements, (driver τ).discard s x.pool⟩
  | .call i c, _ =>
    match x.statements[i]? with
    | some st =>
      let (_, st', p') := c.make.apply (st, x.pool)
      ⟨x.session, x.statements.set i st', p'⟩
    | none => x
  | _, none => x

end Use

/-- All that is done, one thing after the other. -/
def performAll (uses : List Use) (x : Scene τ) : Scene τ := uses.foldl (fun x u => u.perform x) x

/-- The session and its statements use one loan, and it has ended if the session has been let go. -/
structure Scene.Shares (loan : Nat) (x : Scene τ) : Prop where
  session    : ∀ s, x.session = some s → s.loan = loan
  statements : ∀ st ∈ x.statements, st.session.loan = loan
  dropped    : x.session = none → loan ∈ x.pool.returned

/-! ## Giving back -/

theorem mem_giveBack (loan : Nat) (p : Pooled τ) : loan ∈ (p.giveBack loan).returned := by
  unfold Pooled.giveBack
  by_cases h : loan ∈ p.returned
  · rw [if_pos h]
    exact h
  · rw [if_neg h]
    exact List.mem_cons_self ..

theorem giveBack_of_mem {p : Pooled τ} (h : loan ∈ p.returned) : p.giveBack loan = p := if_pos h

/-- A loan that has not ended twice has not ended twice when it is given back. -/
theorem count_giveBack_le {p : Pooled τ} (h : p.returned.count loan ≤ 1) (other : Nat) :
    (p.giveBack other).returned.count loan ≤ 1 := by
  unfold Pooled.giveBack
  by_cases hother : other ∈ p.returned
  · rw [if_pos hother]
    exact h
  · rw [if_neg hother]
    by_cases heq : other = loan
    · subst heq
      have hone : (other :: p.returned).count other = 1 := by
        rw [List.count_cons_self, List.count_eq_zero.mpr hother]
      exact Nat.le_of_eq hone
    · rw [List.count_cons_of_ne heq]
      exact h

/-! ## After the end of a loan -/

namespace Prepared

variable {s : Prepared τ} {p : Pooled τ} (h : s.session.loan ∈ p.returned)
include h

theorem fetch_of_closed (vs : List Value) :
    (s.fetch vs).apply p = (.error Fault.connectionClosed.failure, p) := by
  by_cases hlimit : s.limit = some 0
  · rw [fetch_of_zero hlimit, Attempt.reword_apply, Pooled.onLoan_returned h]
    rfl
  · rw [fetch_of_ne_zero hlimit, Attempt.map_apply, run_of_closed h vs]
    rfl

theorem runEntries_of_closed {es : List (List Value)} (hes : es ≠ []) :
    (s.runEntries es).apply p = (.error Fault.connectionClosed.failure, p) := by
  cases es with
  | nil       => exact absurd rfl hes
  | cons e es => exact Attempt.bind_of_error (run_of_closed h e) _

theorem runEntries_stays (es : List (List Value)) : ((s.runEntries es).apply p).2 = p := by
  cases es with
  | nil       => rfl
  | cons e es => rw [runEntries_of_closed h (List.cons_ne_nil e es)]

namespace Does

variable {c : Call} {out : Except Failure Answer × Prepared τ × Pooled τ}

/-- When the loan has ended no call reaches the far side, and none gives anything back. -/
theorem stays (hdoes : s.Does p c out) : out.2.2 = p := by
  cases hdoes with
  | queried _           => exact congrArg Prod.snd (fetch_of_closed h _)
  | updateFailed _ hrun => exact congrArg Prod.snd (hrun.symm.trans (run_of_closed h _))
  | updated _ hrun      => exact congrArg Prod.snd (hrun.symm.trans (run_of_closed h _))
  | batchFailed hrun    => exact (congrArg Prod.snd hrun).symm.trans (runEntries_stays h s.batch)
  | batchRun hrun       => exact (congrArg Prod.snd hrun).symm.trans (runEntries_stays h s.batch)
  | _                   => rfl

theorem query_fails (hdoes : s.Does p .executeQuery out) : ∃ f, out.1 = .error f := by
  cases hdoes with
  | notQueried f => exact ⟨f, rfl⟩
  | queried _    =>
    rw [fetch_of_closed h]
    exact ⟨_, rfl⟩

theorem update_fails (hdoes : s.Does p .executeUpdate out) : ∃ f, out.1 = .error f := by
  cases hdoes with
  | notUpdated f        => exact ⟨f, rfl⟩
  | updateFailed _ hrun => exact ⟨_, rfl⟩
  | updated _ hrun      => exact absurd (congrArg Prod.fst (hrun.symm.trans (run_of_closed h _))) (by simp)

/-- An empty batch asks for nothing, so it does not fail. -/
theorem batch_fails (hdoes : s.Does p .executeBatch out) (hbatch : s.batch ≠ []) : ∃ f, out.1 = .error f := by
  cases hdoes with
  | batchFailed hrun => exact ⟨_, rfl⟩
  | batchRun hrun    => exact absurd (congrArg Prod.fst (hrun.symm.trans (runEntries_of_closed h hbatch))) (by simp)

end Does

end Prepared

/-- A session whose loan has ended: whatever is done with it and its statements, nothing is exchanged with the
    server and nothing is given back, and all that would have to reach the server fails. -/
structure Scene.Silent (x : Scene τ) : Prop where
  still         : ∀ uses : List Use, (performAll uses x).pool = x.pool
  prepare       : ∀ s, x.session = some s → ∀ sql keys,
    ∃ f, (((driver τ).prepare sql keys).apply (s, x.pool)).1 = .error f
  executeQuery  : ∀ st ∈ x.statements, ∃ f, (Call.executeQuery.make.apply (st, x.pool)).1 = .error f
  executeUpdate : ∀ st ∈ x.statements, ∃ f, (Call.executeUpdate.make.apply (st, x.pool)).1 = .error f
  executeBatch  : ∀ st ∈ x.statements, st.batch ≠ [] →
    ∃ f, (Call.executeBatch.make.apply (st, x.pool)).1 = .error f

/-! ## Steps and runs -/

section
variable (s : Session τ) (p : Pooled τ) (sql : String) (keys : KeyCapture)

/-- A session prepares its own statements. It stays as it is, and its loan does not end. -/
theorem prepare_keeps : (((driver τ).prepare sql keys).apply (s, p)).2.1 = s
    ∧ (((driver τ).prepare sql keys).apply (s, p)).2.2.returned = p.returned
    ∧ ∀ st : Prepared τ, (((driver τ).prepare sql keys).apply (s, p)).1 = .ok st → st.session = s := by
  rw [Session.prepare_apply]
  refine ⟨rfl, onLoan_keeps s.loan (s.server.prepare sql) p, ?_⟩
  intro st hst
  match hend : ((Pooled.onLoan s.loan (s.server.prepare sql)).apply p).1 with
  | .ok count =>
    rw [hend] at hst
    obtain rfl : Prepared.fresh s sql keys count = st := Except.ok.inj hst
    rfl
  | .error f  =>
    rw [hend] at hst
    nomatch hst

theorem prepare_of_closed {s : Session τ} {p : Pooled τ} (h : s.loan ∈ p.returned) (sql : String)
    (keys : KeyCapture) :
    ((driver τ).prepare sql keys).apply (s, p) = (.error Fault.connectionClosed.failure, s, p) := by
  rw [Session.prepare_apply, Pooled.onLoan_returned h]
  rfl

end

/-- What becomes of a session and its statements. -/
inductive Use.Does (x : Scene τ) : Use → Scene τ → Prop where
  /-- There is no such statement, or the session has been let go. -/
  | nothing {u : Use} (h : u.ends = true → x.session = none) : Does x u x
  | prepared {sql : String} {keys : KeyCapture} {s : Session τ} {p : Pooled τ} (new : List (Prepared τ))
      (hs : x.session = some s) (hp : p = (((driver τ).prepare sql keys).apply (s, x.pool)).2.2)
      (hnew : ∀ st ∈ new, st.session = s) : Does x (.prepare sql keys) ⟨some s, x.statements ++ new, p⟩
  | closed {s : Session τ} (hs : x.session = some s) : Does x .close ⟨some s, x.statements, x.pool.giveBack s.loan⟩
  | dropped {s : Session τ} (hs : x.session = some s) : Does x .drop ⟨none, x.statements, x.pool.giveBack s.loan⟩
  | called {i : Nat} {st : Prepared τ} (hst : st ∈ x.statements) (c : Prepared.Call) :
      Does x (.call i c) ⟨x.session, x.statements.set i (c.make.apply (st, x.pool)).2.1,
        (c.make.apply (st, x.pool)).2.2⟩

theorem Use.perform_does (u : Use) (x : Scene τ) : u.Does x (u.perform x) := by
  obtain ⟨session, statements, p⟩ := x
  cases u with
  | prepare sql keys =>
    cases session with
    | none   => exact .nothing fun h => absurd h Bool.false_ne_true
    | some s =>
      obtain ⟨hsession, -, hst⟩ := prepare_keeps s p sql keys
      unfold Use.perform
      simp only
      match hend : ((driver τ).prepare sql keys).apply (s, p) with
      | (.ok st, s', p')   =>
        rw [hend] at hsession hst
        obtain rfl : s' = s := hsession
        refine .prepared [st] rfl (by rw [hend]) ?_
        intro st' hst'
        rw [List.mem_singleton.mp hst']
        exact hst st rfl
      | (.error f, s', p') =>
        rw [hend] at hsession
        obtain rfl : s' = s := hsession
        have hdoes : (Use.prepare sql keys).Does ⟨some s', statements, p⟩ ⟨some s', statements ++ [], p'⟩ :=
          .prepared [] rfl (by rw [hend]) fun st hst => absurd hst List.not_mem_nil
        rwa [List.append_nil] at hdoes
  | close =>
    cases session with
    | none   => exact .nothing fun _ => rfl
    | some s => exact .closed rfl
  | drop =>
    cases session with
    | none   => exact .nothing fun _ => rfl
    | some s => exact .dropped rfl
  | call i c =>
    unfold Use.perform
    simp only
    match hst : statements[i]? with
    | none    => exact .nothing fun h => absurd h Bool.false_ne_true
    | some st => exact .called (List.mem_of_getElem? hst) c

namespace Use.Does

variable {x y : Scene τ} {u : Use} (h : u.Does x y)
include h

theorem shares (hx : x.Shares loan) : y.Shares loan := by
  cases h with
  | nothing _ => exact hx
  | @prepared sql keys s p new hs hp hnew =>
    refine ⟨?_, ?_, ?_⟩
    · intro s' hs'
      obtain rfl : s = s' := Option.some.inj hs'
      exact hx.session s hs
    · intro st hst
      rcases List.mem_append.mp hst with hold | hst
      · exact hx.statements st hold
      · rw [hnew st hst]
        exact hx.session s hs
    · intro hnone
      exact absurd hnone (Option.some_ne_none s)
  | @closed s hs =>
    refine ⟨?_, hx.statements, ?_⟩
    · intro s' hs'
      obtain rfl : s = s' := Option.some.inj hs'
      exact hx.session s hs
    · intro hnone
      exact absurd hnone (Option.some_ne_none s)
  | @dropped s hs =>
    refine ⟨?_, hx.statements, ?_⟩
    · intro s' hs'
      exact absurd hs' (Option.some_ne_none s').symm
    · intro _
      have hloan : s.loan = loan := hx.session s hs
      exact hloan ▸ mem_giveBack s.loan x.pool
  | @called i st hst c =>
    -- A call leaves the statement with its session.
    obtain ⟨hsame, hreturned⟩ := (make_does st x.pool c).keeps
    refine ⟨hx.session, ?_, ?_⟩
    · intro st' hst'
      rcases List.mem_or_eq_of_mem_set hst' with hold | rfl
      · exact hx.statements st' hold
      · rw [hsame.session]
        exact hx.statements st hst
    · intro hnone
      rw [hreturned]
      exact hx.dropped hnone

/-- Nothing but a close or a drop ends a loan. -/
theorem returned_of_not_ends (hends : u.ends = false) : y.pool.returned = x.pool.returned := by
  cases h with
  | nothing _ => rfl
  | @prepared sql keys s p new hs hp hnew =>
    rw [hp]
    exact (prepare_keeps s x.pool sql keys).2.1
  | closed hs => exact absurd hends (by simp [Use.ends])
  | dropped hs => exact absurd hends (by simp [Use.ends])
  | @called i st hst c => exact (make_does st x.pool c).keeps.2

/-- A close or a drop ends the loan, if it has not ended before. -/
theorem mem_of_ends (hx : x.Shares loan) (hends : u.ends = true) : loan ∈ y.pool.returned := by
  cases h with
  | nothing hnone => exact hx.dropped (hnone hends)
  | prepared new hs hp hnew => exact absurd hends Bool.false_ne_true
  | @closed s hs =>
    have hloan : s.loan = loan := hx.session s hs
    exact hloan ▸ mem_giveBack s.loan x.pool
  | @dropped s hs =>
    have hloan : s.loan = loan := hx.session s hs
    exact hloan ▸ mem_giveBack s.loan x.pool
  | called hst c => exact absurd hends Bool.false_ne_true

theorem count_le (hx : x.pool.returned.count loan ≤ 1) : y.pool.returned.count loan ≤ 1 := by
  cases hends : u.ends with
  | false =>
    rw [h.returned_of_not_ends hends]
    exact hx
  | true  =>
    cases h with
    | nothing _ => exact hx
    | prepared new hs hp hnew => exact absurd hends Bool.false_ne_true
    | @closed s hs => exact count_giveBack_le hx s.loan
    | @dropped s hs => exact count_giveBack_le hx s.loan
    | called hst c => exact absurd hends Bool.false_ne_true

/-- When the loan has ended, nothing is exchanged and nothing is given back. -/
theorem still (hx : x.Shares loan) (hended : loan ∈ x.pool.returned) : y.pool = x.pool := by
  cases h with
  | nothing _ => rfl
  | @prepared sql keys s p new hs hp hnew =>
    have hloan : s.loan = loan := hx.session s hs
    rw [prepare_of_closed (hloan ▸ hended)] at hp
    exact hp
  | @closed s hs =>
    have hloan : s.loan = loan := hx.session s hs
    exact giveBack_of_mem (hloan ▸ hended)
  | @dropped s hs =>
    have hloan : s.loan = loan := hx.session s hs
    exact giveBack_of_mem (hloan ▸ hended)
  | @called i st hst c =>
    have hloan : st.session.loan = loan := hx.statements st hst
    exact (make_does st x.pool c).stays (hloan ▸ hended)

end Use.Does

section
variable {x : Scene τ} (uses : List Use)

theorem performAll_shares (h : x.Shares loan) : (performAll uses x).Shares loan := by
  induction uses generalizing x with
  | nil => exact h
  | cons u uses ih => exact ih ((u.perform_does x).shares h)

theorem performAll_count_le (h : x.pool.returned.count loan ≤ 1) :
    (performAll uses x).pool.returned.count loan ≤ 1 := by
  induction uses generalizing x with
  | nil => exact h
  | cons u uses ih => exact ih ((u.perform_does x).count_le h)

theorem performAll_still (h : x.Shares loan) (hended : loan ∈ x.pool.returned) :
    (performAll uses x).pool = x.pool := by
  induction uses generalizing x with
  | nil => rfl
  | cons u uses ih =>
    have hstill : (u.perform x).pool = x.pool := (u.perform_does x).still h hended
    exact (ih ((u.perform_does x).shares h) (hstill ▸ hended)).trans hstill

theorem performAll_returned (h : ∀ u ∈ uses, u.ends = false) :
    (performAll uses x).pool.returned = x.pool.returned := by
  induction uses generalizing x with
  | nil => rfl
  | cons u uses ih =>
    obtain ⟨hu, huses⟩ := List.forall_mem_cons.mp h
    exact (ih huses).trans ((u.perform_does x).returned_of_not_ends hu)

/-- Once there was a close or a drop, the loan has ended. -/
theorem mem_returned_of_ends (h : x.Shares loan) {u : Use} (hu : u ∈ uses) (hends : u.ends = true) :
    loan ∈ (performAll uses x).pool.returned := by
  induction uses generalizing x with
  | nil => exact absurd hu List.not_mem_nil
  | cons first uses ih =>
    have hshares : (first.perform x).Shares loan := (first.perform_does x).shares h
    rcases List.mem_cons.mp hu with rfl | hu
    · -- The loan ends here, and after that the pool does not change.
      have hended := (u.perform_does x).mem_of_ends h hends
      show loan ∈ (performAll uses (u.perform x)).pool.returned
      rw [performAll_still uses hshares hended]
      exact hended
    · exact ih hshares hu

end

theorem Scene.Shares.silent {x : Scene τ} (h : x.Shares loan) (hended : loan ∈ x.pool.returned) : x.Silent where
  still uses := performAll_still uses h hended
  prepare s hs sql keys := by
    have hloan : s.loan = loan := h.session s hs
    exact ⟨_, congrArg Prod.fst (prepare_of_closed (hloan ▸ hended) sql keys)⟩
  executeQuery st hst := by
    have hloan : st.session.loan = loan := h.statements st hst
    exact (make_does st x.pool .executeQuery).query_fails (hloan ▸ hended)
  executeUpdate st hst := by
    have hloan : st.session.loan = loan := h.statements st hst
    exact (make_does st x.pool .executeUpdate).update_fails (hloan ▸ hended)
  executeBatch st hst hbatch := by
    have hloan : st.session.loan = loan := h.statements st hst
    exact (make_does st x.pool .executeBatch).batch_fails (hloan ▸ hended) hbatch

/-- **A connection is given back once.** A session has a connection on loan, and it is used in any way, together
    with the statements that are prepared on it: the connection has been given back once if the session has been
    closed or let go, no matter how often and with which statements left, and otherwise it has not been given back.
    When it has been, no request reaches the server any more, and preparing and running statements fails. -/
theorem given_back_once (server : Server τ) (loan : Nat) (p : Logged τ) (hlent : loan ∉ p.returned)
    (uses : List Use) :
    let x := performAll uses ⟨some ⟨server.logged, loan⟩, [], p⟩
    ((∀ u ∈ uses, u.ends = false) → x.pool.returned.count loan = 0)
      ∧ ((∃ u ∈ uses, u.ends = true) → x.pool.returned.count loan = 1)
      ∧ (x.session = none → x.pool.returned.count loan = 1)
      ∧ (loan ∈ x.pool.returned → x.Silent) := by
  intro x
  have hbegin : Scene.Shares loan ⟨some ⟨server.logged, loan⟩, [], p⟩ := by
    refine ⟨?_, fun st hst => absurd hst List.not_mem_nil, fun hnone => absurd hnone (Option.some_ne_none _)⟩
    intro s hs
    obtain rfl := Option.some.inj hs
    rfl
  have hshares : x.Shares loan := performAll_shares uses hbegin
  have hle : x.pool.returned.count loan ≤ 1 := by
    have hzero : p.returned.count loan = 0 := List.count_eq_zero.mpr hlent
    exact performAll_count_le uses (hzero ▸ Nat.zero_le 1)
  have hone : loan ∈ x.pool.returned → x.pool.returned.count loan = 1 := by
    intro hended
    exact Nat.le_antisymm hle (List.count_pos_iff.mpr hended)
  refine ⟨?_, ?_, ?_, ?_⟩
  · intro hnot
    have hreturned : x.pool.returned = p.returned := performAll_returned uses hnot
    rw [hreturned]
    exact List.count_eq_zero.mpr hlent
  · rintro ⟨u, hu, hends⟩
    exact hone (mem_returned_of_ends uses hbegin hu hends)
  · intro hnone
    exact hone (hshares.dropped hnone)
  · intro hended
    exact hshares.silent hended

/-- A server whose statements have one parameter and affect one row. -/
def plainServer : Server Unit where
  acquire   := return ()
  prepare _ := return 1
  run _ _   := return .done 1 0

/-- A session that is closed twice and then let go, with a statement that is left. -/
theorem given_back_once_closedTwice :
    let x := performAll [.prepare "delete from t where a = ?" .none, .close, .close, .drop]
      ⟨some ⟨plainServer.logged, 0⟩, [], ⟨((), []), 1, []⟩⟩
    x.statements.length = 1 ∧ x.pool.returned.count 0 = 1 ∧ x.Silent := by
  intro x
  obtain ⟨-, hone, -, hsilent⟩ := given_back_once plainServer 0 ⟨((), []), 1, []⟩ (by decide)
    [.prepare "delete from t where a = ?" .none, .close, .close, .drop]
  have hcount : x.pool.returned.count 0 = 1 := hone ⟨.drop, by simp, rfl⟩
  have hended : 0 ∈ x.pool.returned := List.count_pos_iff.mp (by rw [hcount]; exact Nat.one_pos)
  exact ⟨rfl, hcount, hsilent hended⟩

end NamedSql.MySql
