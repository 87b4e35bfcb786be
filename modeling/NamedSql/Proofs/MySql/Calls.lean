import NamedSql.MySql.Driver
import NamedSql.Proofs.Attempt.Ensures

/-!
# `Proofs.MySql.Calls` — calls on prepared statements, and what they say to the server

A prepared statement is used by making calls on it, one after the other, in any order; the server fails when it
likes. Any server can be made to keep a log of what it is asked and of what it answers, so it can be told what a
call has led to.

## Contents
- `Exchange`, `Server.logged` with `Server.logged_run`, `log`; `onLoan_logging` for a request over a connection, and
  `onLoan_keeps`.
- `Prepared.Call`, `Prepared.Answer`, `Call.make`: the calls of the driver on a statement, with an equation for
  each (`make_bind` and its like).
- `Prepared.cut`: rows up to a limit, with `fetch_of_zero` and `fetch_of_ne_zero`.
- `Prepared.Does`: what a call may do, and `make_does`; `Does.keeps`: what no call changes.
- `Prepared.run_of_closed`, `Prepared.run_of_open`: what running a statement once leaves in the log.
- `Prepared.fresh`: a statement before the first call, and `Session.prepare_apply`, which makes one.
- `Moment`: a call and where it is made; `Moment.exchanges`, what is exchanged during it. `moments`: those of a
  whole run.
- **Step and run.** `moments_invariant`: what each call keeps holds at each moment of a run, of the moments before
  it and of the statement at that time.
-/

namespace NamedSql.MySql

variable {τ ε α : Type}

/-! ## What is exchanged -/

/-- A request to a server, with its answer. The arguments of a statement are entered as the values that they stand
    for. -/
inductive Exchange where
  | prepared (sql : String) (answer : Except Fault Nat)
  | ran (sql : String) (arguments : List Value) (answer : Except Fault Response)

/-- A step of a server, entered in a log with its answer. -/
def logging (entry : Except Fault α → Exchange) (x : Attempt τ Fault α) :
    Attempt (τ × List Exchange) Fault α :=
  .of fun (t, es) =>
    let (r, t') := x.apply t
    (r, t', es ++ [entry r])

/-- The same server, with a log. -/
def Server.logged (server : Server τ) : Server (τ × List Exchange) where
  acquire           := server.acquire.within Prod.fst fun t (_, es) => (t, es)
  prepare sql       := logging (.prepared sql) (server.prepare sql)
  run sql arguments := logging (.ran sql (arguments.map Argument.value)) (server.run sql arguments)

/-- Values that are handed over are entered as they are. -/
theorem Server.logged_run (server : Server τ) (sql : String) (vs : List Value) :
    server.logged.run sql (vs.map Argument.ofValue)
      = logging (.ran sql vs) (server.run sql (vs.map Argument.ofValue)) := by
  show logging (.ran sql ((vs.map Argument.ofValue).map Argument.value)) _ = _
  rw [Argument.map_value_ofValue]

/-- The far side with the log, and the loans of connections. -/
abbrev Logged (τ : Type) := Pooled (τ × List Exchange)

/-- What has been exchanged. -/
def log (p : Logged τ) : List Exchange := p.far.2

/-- Over a connection that is open the server is asked and answers. -/
theorem onLoan_logging (entry : Except Fault α → Exchange) (x : Attempt τ Fault α) {loan : Nat} {p : Logged τ}
    (h : loan ∉ p.returned) :
    ∃ r p', (Pooled.onLoan loan (logging entry x)).apply p = (r, p') ∧ log p' = log p ++ [entry r]
      ∧ p'.returned = p.returned := by
  rw [Pooled.onLoan, Attempt.of_apply, if_neg h]
  exact ⟨_, _, rfl, rfl, rfl⟩

/-- Loans are not ended by what is done over a connection. -/
theorem onLoan_keeps (loan : Nat) (x : Attempt τ Fault α) (p : Pooled τ) :
    ((Pooled.onLoan loan x).apply p).2.returned = p.returned := by
  rw [Pooled.onLoan, Attempt.of_apply]
  by_cases h : loan ∈ p.returned
  · rw [if_pos h]
  · rw [if_neg h]
    rfl

/-! ## Calls -/

namespace Prepared

/-- A call on a prepared statement. -/
inductive Call where
  | bind (slot : Nat) (value : Value)
  | addBatch
  | setMaxRows (limit : Option Nat)
  | executeQuery | executeUpdate | executeBatch | generatedKeys | close

/-- What a call answers if it succeeds. -/
inductive Answer where
  | done
  | count (n : Int64)
  | counts (ns : List Int64)
  | cursor (c : Cursor)

/-- Makes a call. -/
def Call.make (c : Call) : Attempt (Prepared τ × Pooled τ) Failure Answer :=
  match c with
  | .bind slot v   => (fun _ => .done) <$> (driver τ).bind slot v
  | .addBatch      => (fun _ => .done) <$> (driver τ).addBatch
  | .setMaxRows n  => (fun _ => .done) <$> (driver τ).setMaxRows n
  | .executeQuery  => .cursor <$> (driver τ).executeQuery
  | .executeUpdate => .count <$> (driver τ).executeUpdate
  | .executeBatch  => .counts <$> (driver τ).executeBatch
  | .generatedKeys => .cursor <$> (driver τ).generatedKeys
  | .close         => (fun _ => .done) <$> (driver τ).closeStatement

theorem opening_apply {ο : Type} (wrap : α → Cursor) (x : Attempt (ο × Pooled τ) Failure α) (s : ο × Pooled τ) :
    (opening wrap x).apply s = ((x.apply s).1.map wrap, (x.apply s).2) := by
  rw [opening, Attempt.bind_apply]
  match x.apply s with
  | (.ok a, s')    => rfl
  | (.error f, s') => rfl

section
variable (s : Prepared τ) (p : Pooled τ)

@[simp] theorem make_bind (slot : Nat) (v : Value) :
    (Call.bind slot v).make.apply (s, p) = ((s.bind slot v).1.map fun _ => .done, (s.bind slot v).2, p) :=
  Attempt.map_apply ..

@[simp] theorem make_addBatch :
    Call.addBatch.make.apply (s, p) = (s.addBatch.1.map fun _ => .done, s.addBatch.2, p) :=
  Attempt.map_apply ..

@[simp] theorem make_setMaxRows (n : Option Nat) :
    (Call.setMaxRows n).make.apply (s, p) = (.ok .done, { s with limit := n }, p) :=
  Attempt.map_apply ..

@[simp] theorem make_executeQuery :
    Call.executeQuery.make.apply (s, p)
      = ((executeQuery.apply (s, p)).1.map fun rows => .cursor (.result rows), (executeQuery.apply (s, p)).2) := by
  show (Answer.cursor <$> opening Cursor.result executeQuery).apply (s, p) = _
  rw [Attempt.map_apply, opening_apply]
  cases (executeQuery.apply (s, p)).1 with
  | ok rows => rfl
  | error f => rfl

@[simp] theorem make_executeUpdate :
    Call.executeUpdate.make.apply (s, p)
      = ((executeUpdate.apply (s, p)).1.map .count, (executeUpdate.apply (s, p)).2) :=
  Attempt.map_apply ..

@[simp] theorem make_executeBatch :
    Call.executeBatch.make.apply (s, p)
      = ((executeBatch.apply (s, p)).1.map .counts, (executeBatch.apply (s, p)).2) :=
  Attempt.map_apply ..

@[simp] theorem make_generatedKeys :
    Call.generatedKeys.make.apply (s, p)
      = (.ok (.cursor (.keys (Rows.ofKeys s.generated))), { s with generated := [] }, p) :=
  Attempt.map_apply ..

@[simp] theorem make_close : Call.close.make.apply (s, p) = (.ok .done, s.close.2, p) :=
  Attempt.map_apply ..

end

/-! ## What a call does -/

/-- If there is a value for each slot, the values are what is in the slots. -/
theorem slots_of_values {slot : Nat} {slots : List (Option Value)} {vs : List Value}
    (h : values slot slots = .ok vs) : slots = vs.map some := by
  induction slots generalizing slot vs with
  | nil =>
    obtain rfl := Except.ok.inj h
    rfl
  | cons o slots ih =>
    cases o with
    | none   => exact absurd h (by simp [values])
    | some v =>
      unfold values at h
      match hrest : values (slot + 1) slots with
      | .error f => exact absurd (hrest ▸ h) (by simp [Except.map])
      | .ok rest =>
        rw [hrest] at h
        obtain rfl : v :: rest = vs := Except.ok.inj h
        rw [ih hrest]
        rfl

/-- Rows up to a limit. -/
def cut : Option Nat → List α → List α
  | none,   rows => rows
  | some n, rows => rows.take n

theorem fetch_of_zero {s : Prepared τ} (h : s.limit = some 0) (vs : List Value) :
    s.fetch vs = (Pooled.onLoan s.session.loan (pure [])).reword Fault.failure := by
  unfold fetch
  rw [h]
  rfl

/-- Unless the limit is zero, the statement is run, and what is fetched are the rows of the reply up to the limit. -/
theorem fetch_of_ne_zero {s : Prepared τ} (h : s.limit ≠ some 0) (vs : List Value) :
    s.fetch vs = (fun reply => cut s.limit reply.rows) <$> s.run vs := by
  unfold fetch
  match hlimit : s.limit with
  | none         => simp [cut]
  | some 0       => exact absurd hlimit h
  | some 1       => simp [cut, List.take_one]
  | some (n + 2) => simp [cut]

/-- What a call may do: how it ends, what becomes of the statement, and where it leaves the world. -/
inductive Does (s : Prepared τ) (p : Pooled τ) : Call → Except Failure Answer × Prepared τ × Pooled τ → Prop where
  | bound {slot : Nat} {v : Value} (r : Except Failure Answer) (slots : List (Option Value)) :
      Does s p (.bind slot v) (r, { s with slots := slots }, p)
  | queued {vs : List Value} (hvs : s.slots = vs.map some) :
      Does s p .addBatch (.ok .done, { s with batch := s.batch ++ [vs] }, p)
  | notQueued (f : Failure) : Does s p .addBatch (.error f, s, p)
  | limited (n : Option Nat) : Does s p (.setMaxRows n) (.ok .done, { s with limit := n }, p)
  /-- A slot has no value, so nothing is asked. -/
  | notQueried (f : Failure) : Does s p .executeQuery (.error f, s, p)
  | queried {vs : List Value} (hvs : s.slots = vs.map some) :
      Does s p .executeQuery (((s.fetch vs).apply p).1.map fun rows => .cursor (.result (.ofRows rows)), s,
        ((s.fetch vs).apply p).2)
  /-- A slot has no value, so nothing is run. -/
  | notUpdated (f : Failure) : Does s p .executeUpdate (.error f, s, p)
  | updateFailed {vs : List Value} {f : Failure} {p' : Pooled τ} (hvs : s.slots = vs.map some)
      (hrun : (s.run vs).apply p = (.error f, p')) :
      Does s p .executeUpdate (.error f, s, p')
  | updated {vs : List Value} {reply : Response} {p' : Pooled τ} (hvs : s.slots = vs.map some)
      (hrun : (s.run vs).apply p = (.ok reply, p')) :
      Does s p .executeUpdate (.ok (.count (affectedRows reply.effect.1)),
        { s with generated := (insertedKey s.keys reply.effect.2).toList }, p')
  | batchFailed {f : Failure} {p' : Pooled τ} (hrun : (s.runEntries s.batch).apply p = (.error f, p')) :
      Does s p .executeBatch (.error f, { s with batch := [] }, p')
  | batchRun {effects : List (UInt64 × UInt64)} {p' : Pooled τ}
      (hrun : (s.runEntries s.batch).apply p = (.ok effects, p')) :
      Does s p .executeBatch (.ok (.counts (effects.map fun e => affectedRows e.1)),
        { s with batch := [], generated := effects.filterMap fun e => insertedKey s.keys e.2 }, p')
  | handedOut :
      Does s p .generatedKeys (.ok (.cursor (.keys (Rows.ofKeys s.generated))), { s with generated := [] }, p)
  | closed :
      Does s p .close (.ok .done, { s with slots := s.slots.map fun _ => none, batch := [], generated := [] }, p)

section
variable (s : Prepared τ) (p : Pooled τ)

theorem bind_does (slot : Nat) (v : Value) : Does s p (.bind slot v) ((Call.bind slot v).make.apply (s, p)) := by
  rw [make_bind, Prepared.bind]
  by_cases h : 1 ≤ slot ∧ slot ≤ s.slots.length
  · rw [if_pos h]
    exact .bound _ _
  · rw [if_neg h]
    exact .bound _ s.slots

theorem addBatch_does : Does s p .addBatch (Call.addBatch.make.apply (s, p)) := by
  rw [make_addBatch, Prepared.addBatch]
  match hvs : s.arguments with
  | .ok vs   => exact .queued (slots_of_values hvs)
  | .error f => exact .notQueued f

theorem executeQuery_does : Does s p .executeQuery (Call.executeQuery.make.apply (s, p)) := by
  rw [make_executeQuery, executeQuery, Attempt.of_apply]
  match hvs : s.arguments with
  | .error f =>
    simp only [hvs]
    exact .notQueried f
  | .ok vs   =>
    have hqueried : s.Does p .executeQuery _ := .queried (slots_of_values hvs)
    simp only [hvs]
    match hfetch : (s.fetch vs).apply p with
    | (.error f, p')  =>
      rw [hfetch] at hqueried
      exact hqueried
    | (.ok rows, p') =>
      rw [hfetch] at hqueried
      exact hqueried

theorem executeUpdate_does : Does s p .executeUpdate (Call.executeUpdate.make.apply (s, p)) := by
  rw [make_executeUpdate, executeUpdate, Attempt.of_apply]
  match hvs : s.arguments with
  | .error f =>
    simp only [hvs]
    exact .notUpdated f
  | .ok vs   =>
    match hrun : (s.run vs).apply p with
    | (.error f, p')  =>
      simp only [hvs, hrun]
      exact .updateFailed (slots_of_values hvs) hrun
    | (.ok reply, p') =>
      simp only [hvs, hrun]
      exact .updated (slots_of_values hvs) hrun

theorem executeBatch_does : Does s p .executeBatch (Call.executeBatch.make.apply (s, p)) := by
  rw [make_executeBatch, executeBatch, Attempt.of_apply]
  match hrun : (s.runEntries s.batch).apply p with
  | (.error f, p')    =>
    simp only [hrun]
    exact .batchFailed hrun
  | (.ok effects, p') =>
    simp only [hrun]
    exact .batchRun hrun

/-- A call does what it may do. -/
theorem make_does (c : Call) : Does s p c (c.make.apply (s, p)) := by
  cases c with
  | bind slot v   => exact bind_does s p slot v
  | addBatch      => exact addBatch_does s p
  | setMaxRows n  =>
    rw [make_setMaxRows]
    exact .limited n
  | executeQuery  => exact executeQuery_does s p
  | executeUpdate => exact executeUpdate_does s p
  | executeBatch  => exact executeBatch_does s p
  | generatedKeys =>
    rw [make_generatedKeys]
    exact .handedOut
  | close         =>
    rw [make_close]
    exact .closed

end

/-- Two states of one statement: what it was prepared with is the same. -/
structure SameStatement (s s' : Prepared τ) : Prop where
  session : s'.session = s.session
  sql     : s'.sql = s.sql
  keys    : s'.keys = s.keys

theorem run_keeps (s : Prepared τ) (vs : List Value) (p : Pooled τ) :
    ((s.run vs).apply p).2.returned = p.returned := onLoan_keeps s.session.loan _ p

theorem runEntries_keeps (s : Prepared τ) (es : List (List Value)) (p : Pooled τ) :
    ((s.runEntries es).apply p).2.returned = p.returned := by
  induction es generalizing p with
  | nil => rfl
  | cons e es ih =>
    have hfirst := run_keeps s e p
    rw [runEntries, Attempt.bind_apply]
    match hrun : (s.run e).apply p with
    | (.error f, p')  =>
      rw [hrun] at hfirst
      exact hfirst
    | (.ok reply, p') =>
      rw [hrun] at hfirst
      rw [Attempt.bind_apply_snd fun _ _ => rfl]
      exact (ih p').trans hfirst

theorem fetch_keeps (s : Prepared τ) (vs : List Value) (p : Pooled τ) :
    ((s.fetch vs).apply p).2.returned = p.returned := by
  by_cases h : s.limit = some 0
  · rw [fetch_of_zero h]
    exact onLoan_keeps s.session.loan _ p
  · rw [fetch_of_ne_zero h, Attempt.map_apply]
    exact run_keeps s vs p

/-- Whatever a call does, the statement stays what it is and no loan ends. -/
theorem Does.keeps {s : Prepared τ} {p : Pooled τ} {c : Call} {out : Except Failure Answer × Prepared τ × Pooled τ}
    (h : Does s p c out) : SameStatement s out.2.1 ∧ out.2.2.returned = p.returned := by
  have hsent : ∀ vs r p', (s.run vs).apply p = (r, p') → p'.returned = p.returned := by
    intro vs r p' hrun
    have hkeeps := run_keeps s vs p
    rwa [hrun] at hkeeps
  have hbatch : ∀ r p', (s.runEntries s.batch).apply p = (r, p') → p'.returned = p.returned := by
    intro r p' hrun
    have hkeeps := runEntries_keeps s s.batch p
    rwa [hrun] at hkeeps
  cases h with
  | queried hvs         => exact ⟨⟨rfl, rfl, rfl⟩, fetch_keeps s _ p⟩
  | updateFailed _ hrun => exact ⟨⟨rfl, rfl, rfl⟩, hsent _ _ _ hrun⟩
  | updated _ hrun      => exact ⟨⟨rfl, rfl, rfl⟩, hsent _ _ _ hrun⟩
  | batchFailed hrun    => exact ⟨⟨rfl, rfl, rfl⟩, hbatch _ _ hrun⟩
  | batchRun hrun       => exact ⟨⟨rfl, rfl, rfl⟩, hbatch _ _ hrun⟩
  | _                   => exact ⟨⟨rfl, rfl, rfl⟩, rfl⟩

/-- A statement with `count` parameters, before the first call. -/
def fresh (session : Session τ) (sql : String) (keys : KeyCapture) (count : Nat) : Prepared τ :=
  ⟨session, sql, keys, List.replicate count none, none, [], []⟩

end Prepared

/-- Over a connection that is closed nothing is run. -/
theorem Prepared.run_of_closed {s : Prepared τ} {p : Pooled τ} (h : s.session.loan ∈ p.returned)
    (vs : List Value) : (s.run vs).apply p = (.error Fault.connectionClosed.failure, p) := by
  rw [Prepared.run, Attempt.reword_apply, Session.run, Pooled.onLoan_returned h]
  rfl

/-- Over one that is open the statement is run once. -/
theorem Prepared.run_of_open {server : Server τ} {s : Prepared (τ × List Exchange)} {p : Logged τ}
    (hserver : s.session.server = server.logged) (h : s.session.loan ∉ p.returned) (vs : List Value) :
    ∃ r p', (s.run vs).apply p = (r.mapError Fault.failure, p') ∧ log p' = log p ++ [.ran s.sql vs r]
      ∧ p'.returned = p.returned := by
  obtain ⟨r, p', hend, hlog, hreturned⟩ :=
    onLoan_logging (.ran s.sql vs) (server.run s.sql (vs.map Argument.ofValue)) h
  refine ⟨r, p', ?_, hlog, hreturned⟩
  rw [Prepared.run, Attempt.reword_apply, Session.run, hserver, Server.logged_run]
  exact congrArg (fun x => (x.1.mapError Fault.failure, x.2)) hend

/-- A statement that a session prepares is fresh. -/
theorem Session.prepare_apply (sql : String) (keys : KeyCapture) (s : Session τ) (p : Pooled τ) :
    ((driver τ).prepare sql keys).apply (s, p)
      = ((((Pooled.onLoan s.loan (s.server.prepare sql)).apply p).1.map (Prepared.fresh s sql keys)).mapError
          Fault.failure, s, ((Pooled.onLoan s.loan (s.server.prepare sql)).apply p).2) := rfl

/-! ## Runs -/

/-- A call in a run: how many calls were made before it, which call it is, and where it is made. -/
structure Moment (τ : Type) where
  number    : Nat
  call      : Prepared.Call
  statement : Prepared (τ × List Exchange)
  pool      : Logged τ

namespace Moment

/-- How the call goes. -/
def outcome (m : Moment τ) : Except Failure Prepared.Answer × (Prepared (τ × List Exchange) × Logged τ) :=
  m.call.make.apply (m.statement, m.pool)

/-- The answer to the call. -/
def answer (m : Moment τ) : Except Failure Prepared.Answer := m.outcome.1

/-- Where the call leads. -/
def after (m : Moment τ) : Prepared (τ × List Exchange) × Logged τ := m.outcome.2

theorem does (m : Moment τ) : m.statement.Does m.pool m.call m.outcome :=
  Prepared.make_does m.statement m.pool m.call

/-- What is exchanged with the server during the call. -/
def exchanges (m : Moment τ) : List Exchange := (log m.after.2).drop (log m.pool).length

theorem exchanges_eq {m : Moment τ} {es : List Exchange} (h : log m.after.2 = log m.pool ++ es) :
    m.exchanges = es := by
  rw [exchanges, h, List.drop_left]

end Moment

/-- The moments of a run; the first one has number `n`. -/
def moments (n : Nat) : List Prepared.Call → Prepared (τ × List Exchange) × Logged τ → List (Moment τ)
  | [], _      => []
  | c :: cs, s =>
    let m : Moment τ := ⟨n, c, s.1, s.2⟩
    m :: moments (n + 1) cs m.after

/-- The moments of a run are numbered one after the other. -/
theorem map_number_moments (n : Nat) (cs : List Prepared.Call) (s : Prepared (τ × List Exchange) × Logged τ) :
    (moments n cs s).map Moment.number = List.range' n cs.length := by
  induction cs generalizing n s with
  | nil => rfl
  | cons c cs ih => exact congrArg (n :: ·) (ih (n + 1) _)

/-- What holds of the moments so far and of the statement, and still holds after each call, holds at each moment
    of a run. -/
theorem moments_invariant {Inv : List (Moment τ) → Prepared (τ × List Exchange) × Logged τ → Prop}
    (hstep : ∀ before m, Inv before (m.statement, m.pool) → Inv (before ++ [m]) m.after)
    (cs : List Prepared.Call) (n : Nat) {s : Prepared (τ × List Exchange) × Logged τ} {earlier : List (Moment τ)}
    (h : Inv earlier s) {before after : List (Moment τ)} {m : Moment τ}
    (hm : moments n cs s = before ++ m :: after) : Inv (earlier ++ before) (m.statement, m.pool) := by
  induction cs generalizing n s earlier before with
  | nil => exact absurd hm (by simp [moments])
  | cons c cs ih =>
    cases before with
    | nil =>
      obtain rfl : ⟨n, c, s.1, s.2⟩ = m := (List.cons.inj hm).1
      rw [List.append_nil]
      exact h
    | cons first before =>
      obtain ⟨rfl, hrest⟩ := List.cons.inj hm
      have hnext := ih (n + 1) (hstep earlier ⟨n, c, s.1, s.2⟩ h) hrest
      rwa [List.append_assoc] at hnext

end NamedSql.MySql
