import NamedSql.Proofs.MySql.ColumnTypes
import NamedSql.Proofs.MySql.Sent

/-!
# `Proofs.MySql.RowLimit` — how many rows a query answers

A limit can be set on the rows of a query. There are short ways to go for a limit of no rows and for one of a single
row, and all of them come to the same: the rows are those of a query without a limit, up to the limit.

## Contents
- **The limit.** `Call.limit?`, `Prepared.afterCalls` for a statement on which calls have been made, and `lastLimit`.
  `Does.limit` for one call, and from it `afterCalls_limit` for any number of them.
- **The rows.** `ResultRows.moved` and `ResultRows.Shows`, for what a cursor shows from move to move; `shows_ofRows`.
- `run_answer`: what the server says to a query. `executeQuery_of_complete`: a query that has all its values.
- `Prepared.executeQuery_up_to_the_limit`.
-/

namespace NamedSql.MySql

variable {τ : Type}

/-! ## The limit that counts -/

namespace Prepared

/-- The limit that a call sets, if it sets one. -/
def Call.limit? : Call → Option (Option Nat)
  | .setMaxRows limit => some limit
  | _                 => none

/-- A statement after some calls. Each of them is made in some world, whatever has happened there in the meantime. -/
def afterCalls (s : Prepared τ) : List (Call × Pooled τ) → Prepared τ
  | []                => s
  | (c, p) :: history => afterCalls (c.make.apply (s, p)).2.1 history

/-- The last limit that some calls set; without any it is the limit of before. -/
def lastLimit (before : Option Nat) (history : List (Call × Pooled τ)) : Option Nat :=
  (history.filterMap fun x => x.1.limit?).getLast?.getD before

/-- No call but the one that sets it changes the limit. -/
theorem Does.limit {s : Prepared τ} {p : Pooled τ} {c : Call} {out : Except Failure Answer × Prepared τ × Pooled τ}
    (h : Does s p c out) : out.2.1.limit = c.limit?.getD s.limit := by
  cases h with
  | limited n => rfl
  | _         => rfl

theorem lastLimit_cons (before : Option Nat) (c : Call) (p : Pooled τ) (history : List (Call × Pooled τ)) :
    lastLimit before ((c, p) :: history) = lastLimit (c.limit?.getD before) history := by
  unfold lastLimit
  cases hc : c.limit? with
  | none       => simp [hc]
  | some limit => simp [hc, List.getLast?_cons]

theorem afterCalls_limit (s : Prepared τ) (history : List (Call × Pooled τ)) :
    (s.afterCalls history).limit = lastLimit s.limit history := by
  induction history generalizing s with
  | nil => rfl
  | cons x history ih =>
    obtain ⟨c, p⟩ := x
    have hstep : (c.make.apply (s, p)).2.1.limit = c.limit?.getD s.limit := (make_does s p c).limit
    rw [lastLimit_cons, ← hstep]
    exact ih _

theorem afterCalls_same (s : Prepared τ) (history : List (Call × Pooled τ)) :
    SameStatement s (s.afterCalls history) := by
  induction history generalizing s with
  | nil => exact ⟨rfl, rfl, rfl⟩
  | cons x history ih =>
    obtain ⟨c, p⟩ := x
    have hstep : SameStatement s (c.make.apply (s, p)).2.1 := (make_does s p c).keeps.1
    have hrest := ih (c.make.apply (s, p)).2.1
    exact ⟨hrest.session.trans hstep.session, hrest.sql.trans hstep.sql, hrest.keys.trans hstep.keys⟩

end Prepared

/-! ## The rows that a cursor shows -/

namespace ResultRows

/-- A cursor after some moves. -/
def moved (c : ResultRows) : Nat → ResultRows
  | 0     => c
  | k + 1 => (moved c k).next.2

/-- A cursor shows some rows: with each move it comes to the next of them, and when there is no other it says so, at
    every move from then on. -/
structure Shows (c : ResultRows) (rows : List (List Cell)) : Prop where
  next (k : Nat) : (c.moved k).next.1 = .ok (decide (k < rows.length))
  current (k : Nat) : (c.moved (k + 1)).current = rows[k]?.elim (.error .offRow) .ok

theorem moved_ofRows (rows : List (List Cell)) (k : Nat) :
    (ofRows rows).moved (k + 1) = ⟨rows, some (min k rows.length), false⟩ := by
  induction k with
  | zero => simp [moved, next, ofRows, upcoming]
  | succ k ih =>
    have hposition : min (min k rows.length + 1) rows.length = min (k + 1) rows.length := by omega
    rw [moved, ih]
    simp [next, upcoming, hposition]

theorem shows_ofRows (rows : List (List Cell)) : (ofRows rows).Shows rows where
  next k := by
    cases k with
    | zero   => rfl
    | succ k =>
      have hupcoming : min k rows.length + 1 < rows.length ↔ k + 1 < rows.length := by omega
      rw [moved_ofRows]
      simp [ResultRows.next, upcoming, hupcoming]
  current k := by
    rw [moved_ofRows]
    by_cases hk : k < rows.length
    · have hposition : min k rows.length = k := by omega
      simp [ResultRows.current, hposition, hk]
    · have hposition : min k rows.length = rows.length := by omega
      have hbehind : rows[k]? = none := by simpa using hk
      simp [ResultRows.current, hposition, hbehind]

end ResultRows

/-! ## Queries -/

namespace Prepared

section
variable {server : Server τ} {s : Prepared (τ × List Exchange)} {p : Logged τ} {vs : List Value}

/-- What comes of running a statement over an open connection is what the server answers, once. -/
theorem run_answer (hserver : s.session.server = server.logged) (hopen : s.session.loan ∉ p.returned)
    (vs : List Value) :
    let answer := ((server.run s.sql (vs.map Argument.ofValue)).apply p.far.1).1
    ((s.run vs).apply p).1 = answer.mapError Fault.failure
      ∧ log ((s.run vs).apply p).2 = log p ++ [.ran s.sql vs answer] := by
  rw [run, Attempt.reword_apply, Session.run, hserver, Server.logged_run, Pooled.onLoan, Attempt.of_apply, if_neg hopen]
  exact ⟨rfl, rfl⟩

/-- A query that has all its values fetches rows. -/
theorem executeQuery_of_complete (hbound : s.slots = vs.map some) :
    Call.executeQuery.make.apply (s, p)
      = (((s.fetch vs).apply p).1.map fun rows => .cursor (.result (.ofRows rows)), s, ((s.fetch vs).apply p).2) := by
  have hvs : s.arguments = .ok vs := by
    rw [arguments, hbound]
    exact values_of_complete 1 vs
  rw [make_executeQuery, executeQuery, Attempt.of_apply]
  simp only [hvs]
  rcases (s.fetch vs).apply p with ⟨f | rows, p'⟩
  · rfl
  · rfl

end

/-- **The rows up to the limit.** A statement of which all parameters have values is run as a query, over a connection
    that is open, after any calls. The limit is the last that has been set. The answer is a cursor over the rows of the
    server up to the limit, in their order: all of them without a limit, and no more of them than the limit says. For a
    limit of zero the server is not asked and the answer has no rows; otherwise it is asked once, and where it fails the
    query fails. -/
theorem executeQuery_up_to_the_limit (server : Server τ) (s : Prepared (τ × List Exchange))
    (history : List (Call × Logged τ)) (p : Logged τ) (vs : List Value)
    (hserver : s.session.server = server.logged) (hopen : s.session.loan ∉ p.returned)
    (hbound : (s.afterCalls history).slots = vs.map some) :
    let limit := lastLimit s.limit history
    let reply := ((server.run s.sql (vs.map Argument.ofValue)).apply p.far.1).1
    let outcome := Call.executeQuery.make.apply (s.afterCalls history, p)
    (∀ r, reply = .ok r → outcome.1 = .ok (.cursor (.result (.ofRows (cut limit r.rows)))))
      ∧ (∀ f, reply = .error f → limit ≠ some 0 → outcome.1 = .error f.failure)
      ∧ (limit = some 0 → outcome.1 = .ok (.cursor (.result (.ofRows []))))
      ∧ log outcome.2.2 = log p ++ (if limit = some 0 then [] else [.ran s.sql vs reply])
      ∧ ∀ rows, (ResultRows.ofRows rows).Shows rows := by
  intro limit reply outcome
  have hsame := s.afterCalls_same history
  have hlimit : (s.afterCalls history).limit = limit := s.afterCalls_limit history
  have hserver' : (s.afterCalls history).session.server = server.logged := by rw [hsame.session, hserver]
  have hopen' : (s.afterCalls history).session.loan ∉ p.returned := by rwa [hsame.session]
  have houtcome : outcome = _ := executeQuery_of_complete hbound
  by_cases hzero : limit = some 0
  · have hfetch : ((s.afterCalls history).fetch vs).apply p = (.ok [], p) := by
      rw [fetch_of_zero (hlimit.trans hzero), Attempt.reword_apply, Pooled.onLoan, Attempt.of_apply, if_neg hopen']
      rfl
    rw [hfetch] at houtcome
    have hnoRows : outcome.1 = .ok (.cursor (.result (.ofRows []))) := by
      rw [houtcome]
      rfl
    refine ⟨?_, fun f _ hne => absurd hzero hne, fun _ => hnoRows, ?_, ResultRows.shows_ofRows⟩
    · intro r _
      rw [hnoRows, hzero]
      rfl
    · rw [houtcome, if_pos hzero, List.append_nil]
  · have hfetch := fetch_of_ne_zero (s := s.afterCalls history) (by rw [hlimit]; exact hzero) vs
    obtain ⟨hanswer, hlog⟩ := run_answer hserver' hopen' vs
    rw [hsame.sql] at hanswer hlog
    rw [hfetch, Attempt.map_apply, hanswer, hlimit] at houtcome
    refine ⟨?_, ?_, fun h => absurd h hzero, ?_, ResultRows.shows_ofRows⟩
    · intro r hr
      have hreply : ((server.run s.sql (vs.map Argument.ofValue)).apply p.far.1).1 = .ok r := hr
      rw [houtcome, hreply]
      rfl
    · intro f hf _
      have hreply : ((server.run s.sql (vs.map Argument.ofValue)).apply p.far.1).1 = .error f := hf
      rw [houtcome, hreply]
      rfl
    · rw [houtcome, if_neg hzero]
      exact hlog

/-- A null in a column of numbers. -/
def noNumber : Cell := .null ⟨"n", "INT"⟩

/-- A server that answers three rows to every query. -/
def threeRowServer : Server Unit where
  acquire   := return ()
  prepare _ := return 0
  run _ _   := return .resultSet [[noNumber], [noNumber], []]

/-- After a limit of one row and then one of two, there are two of three rows. -/
theorem executeQuery_up_to_the_limit_twoOfThree :
    let p : Logged Unit := .ofFar ((), [])
    let s := fresh ⟨threeRowServer.logged, 0⟩ "select n from t" .none 0
    s.session.server = threeRowServer.logged ∧ s.session.loan ∉ p.returned
      ∧ (s.afterCalls [(.setMaxRows (some 1), p), (.setMaxRows (some 2), p)]).slots = [].map some
      ∧ (Call.executeQuery.make.apply (s.afterCalls [(.setMaxRows (some 1), p), (.setMaxRows (some 2), p)], p)).1
        = .ok (.cursor (.result (.ofRows [[noNumber], [noNumber]]))) := by
  intro p s
  have hopen : s.session.loan ∉ p.returned := List.not_mem_nil
  obtain ⟨hrows, -⟩ := executeQuery_up_to_the_limit threeRowServer s
    [(.setMaxRows (some 1), p), (.setMaxRows (some 2), p)] p [] rfl hopen rfl
  exact ⟨rfl, hopen, rfl, hrows _ rfl⟩

end Prepared

end NamedSql.MySql
