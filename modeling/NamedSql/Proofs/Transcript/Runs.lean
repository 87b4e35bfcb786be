import NamedSql.Proofs.Transcript.Answers
import NamedSql.Rehearsal.Driver
import NamedSql.Statement.Basic

/-!
# `Proofs.Transcript.Runs` — runs of queries and updates, and the failures that they tell

## Contents
- **Cursors.** `withQuery_works`, `withKeys_works`.
- **Queries.** `select_run_reports` for any operation, and one lemma for each way to run a query.
- **Updates.** The same: `update_run_reports`, and `IsKeyOrNone` for an update that has to return a key.
- **From a registry.** `Select.named_eq_bind`, `Update.named_eq_bind`.
- **Every call.** `first_failure_told`: of the failures of a step and of the closes after it, the answer tells the
  first of a step, or else the first of a close, and every resource is closed in any case.
-/

namespace NamedSql

open Transcript HasCore

variable {σ α β : Type} {D : Driver σ}

section
variable (s : σ × Transcript)

/-! ## Cursors -/

theorem withQuery_works {work : Attempt (D.Cursor × σ × Transcript) (Halt Failure) β}
    (hwork : Faithful worldly id work) :
    Works [.executeQuery] id (Handle.withQuery (D := D.transcribed) .failed work) := by
  refine Works.withCursor (q := .executeQuery) ?_ D.executeQuery ?_ hwork
  · intro f
    cases f with
    | none   => rfl
    | some f => rfl
  · intro f
    rfl

theorem withKeys_works {work : Attempt (D.Cursor × σ × Transcript) Failure β}
    (hwork : Faithful worldly .failed work) :
    Works [.generatedKeys] .failed (Handle.withKeys (D := D.transcribed) id work) := by
  refine Works.withCursor (q := .generatedKeys) ?_ D.generatedKeys ?_ hwork
  · intro f
    cases f with
    | none   => rfl
    | some f => rfl
  · intro f
    rfl

/-! ## Queries -/

section
variable {q : Select D.transcribed α} {m : Mapper D α}

theorem select_run_reports {plan : List Request}
    {op : Attempt (Handle D.transcribed × σ × Transcript) (Halt Failure) β} (hop : Works plan id op)
    (hq : q.core.Live) : Reports plan q.core.text id IsValue (q.run op) s := by
  have hrun : q.run op = .of fun s =>
      let (r, _, s') := (Core.finish Select.whileExecuting .failed op).apply (q.core, s)
      (r, s') := funext (q.run_apply op)
  rw [hrun]
  refine finish_reports ?_ ?_ hop hq s
  · intro text e
    rfl
  · intro e
    rfl

theorem select_execute_reports (hq : q.core.Live) (hm : q.mapper = m.transcribed) :
    Reports [.setMaxRows (some 1), .executeQuery] q.core.text id IsValue q.execute s := by
  have hlimit : Steady (D := D) [.setMaxRows (some 1)] id
      ((Handle.call (D.transcribed.setMaxRows (some 1))).reword Halt.failed) :=
    (Steady.call (fun _ => rfl) (D.setMaxRows (some 1))).reword fun _ => rfl
  have hrun := select_run_reports s (.bind hlimit fun _ => withQuery_works (firstRow_faithful m)) hq
  rw [← hm] at hrun
  exact hrun.bind (g := fun row => .ok (row.or q.default)) (fun _ _ => rfl) fun _ => ⟨_, rfl⟩

theorem select_executeForAll_reports (hq : q.core.Live) (hm : q.mapper = m.transcribed) :
    Reports [.executeQuery] q.core.text id IsValue q.executeForAll s := by
  have hrows : Faithful worldly id (.of (D.transcribed.collect Halt.failed m.transcribed 1)) := by
    refine Faithful.collect ?_ (mapper_faithful m) 1
    intro f
    rfl
  have hrun := select_run_reports s (withQuery_works hrows) hq
  rw [← hm] at hrun
  exact hrun

end

theorem select_executeScalar_reports {q : Select D.transcribed (Option α)} {m : Mapper D (Option α)}
    (hq : q.core.Live) (hm : q.mapper = m.transcribed) :
    Reports [.setMaxRows (some 1), .executeQuery] q.core.text id IsValue q.executeScalar s := by
  have hexecute := select_execute_reports (q := { q with default := none }) s hq hm
  exact hexecute.bind (g := fun row => .ok (row.join.or q.default.join)) (fun _ _ => rfl) fun _ => ⟨_, rfl⟩

/-! ## Updates -/

variable {u : Update D.transcribed}

theorem update_run_reports {plan : List Request} {op : Attempt (Handle D.transcribed × σ × Transcript) Failure β}
    (hop : Works plan .failed op) (hu : u.core.Live) : Reports plan u.core.text .failed IsValue (u.run op) s := by
  refine finish_reports ?_ ?_ hop hu s
  · intro text e
    rfl
  · intro e
    rfl

theorem update_execute_reports (hu : u.core.Live) :
    Reports [.executeUpdate, .generatedKeys] u.core.text .failed IsValue u.execute s := by
  refine update_run_reports s (.bind (Steady.call (fun _ => rfl) D.executeUpdate) ?_) hu
  intro count
  exact (withKeys_works firstKey_faithful).map fun key => key.getD count

/-- The answer of an update that has to return a key, if nothing has failed. -/
def IsKeyOrNone (text : String) (r : Except Error Int64) : Prop := IsValue r ∨ r = .error (.noGeneratedKey text)

theorem update_executeReturningKey_reports (hu : u.core.Live) :
    Reports [.executeUpdate, .generatedKeys] u.core.text .failed (IsKeyOrNone u.core.text)
      u.executeReturningKey s := by
  have hcall : Steady (D := D) [.executeUpdate] .failed (Handle.call D.transcribed.executeUpdate) :=
    Steady.call (fun _ => rfl) D.executeUpdate
  have hrun := update_run_reports s (.bind hcall fun _ => withKeys_works firstKey_faithful) hu
  refine hrun.bind (g := fun key => key.elim (.error (.noGeneratedKey u.core.text)) .ok) ?_ ?_
  · intro key s
    cases key with
    | none   => rfl
    | some k => rfl
  · intro key
    cases key with
    | none   => exact .inr rfl
    | some k => exact .inl ⟨k, rfl⟩

theorem update_executeBatch_reports (hu : u.core.Live) :
    Reports [.executeBatch, .generatedKeys] u.core.text .failed IsValue u.executeBatch s := by
  refine update_run_reports s (.bind (Steady.call (fun _ => rfl) D.executeBatch) ?_) hu
  intro counts
  exact (withKeys_works allKeys_faithful).map fun keys => if keys.isEmpty then counts else keys

end

/-! ## From a registry -/

theorem Select.named_eq_bind (r : Registry D) (name : Option String) (sql : String) (m : Mapper D α) :
    Select.named r name sql m = r.connect name >>= fun k => Select.onConnection k sql m :=
  bind_assoc _ _ _

theorem Update.named_eq_bind (r : Registry D) (name : Option String) (sql : String) :
    Update.named r name sql = r.connect name >>= fun k => Update.onConnection k sql :=
  bind_assoc _ _ _

/-! ## Every call -/

/-- Every call asks its connection or its statement what it has to, until a step fails. If one does, the answer is
    that failure, told with the text as it was written; if only closes fail, it is the first of those; and a value is
    the answer only if nothing fails. Nothing keeps a resource from being closed. A statement that was prepared can be
    bound to and run, and so it stays while values are bound. -/
theorem first_failure_told (D : Driver σ) :
    -- Preparing on a connection, which a registry may have opened.
    (∀ (k : D.Connection) (sql : String) (s : σ × Transcript),
      let text := (Positional.ofNamed sql).text
      Hands Update.core [.prepare text .generated] (.prepare sql) [.connection] sql
          (Update.onConnection (D := D.transcribed) k sql) s
        ∧ ∀ {α : Type} (m : Mapper D.transcribed α),
          Hands Select.core [.prepare text .none] (.prepare sql) [.connection] sql
            (Select.onConnection (D := D.transcribed) k sql m) s)
    ∧ (∀ (r : Registry D.transcribed) (name : Option String) (sql : String),
      Update.named r name sql = (r.connect name >>= fun k => Update.onConnection k sql)
        ∧ ∀ {α : Type} (m : Mapper D.transcribed α),
          Select.named r name sql m = (r.connect name >>= fun k => Select.onConnection k sql m))
    -- Binding a value in place or in a chain, by name and by number.
    ∧ (∀ {S : Type} [HasCore D.transcribed S] (q : S) (v : Value) (s : σ × Transcript),
      let c : Core D.transcribed := core q
      c.Live →
        (∀ name,
            let plan : List Request := (c.positional.slots name).map (.bind · v)
            Hands core plan (.bind name v.display) [.statement, .connection] c.text (left (bindValue name v) q) s
              ∧ Hands core plan (.bind name v.display) [.statement, .connection] c.text (HasCore.set q name v) s)
          ∧ ∀ slot,
            let told : Failure → Error := .bind ("#" ++ toString slot) v.display
            if 1 ≤ slot ∧ slot ≤ c.positional.names.length
              then Hands core [.bind slot v] told [.statement, .connection] c.text (left (bindIndex slot v) q) s
                ∧ Hands core [.bind slot v] told [.statement, .connection] c.text (setAt q slot v) s
              else
                let e := told (.noSlot slot c.positional.names.length)
                Refuses e [.statement, .connection] (left (bindIndex slot v) q) s
                  ∧ Refuses e [.statement, .connection] (setAt q slot v) s)
    -- Queueing an entry of a batch, and running an update.
    ∧ (∀ (u : Update D.transcribed) (s : σ × Transcript), u.core.Live →
      Hands Update.core [.addBatch] (.execute u.core.text) [.statement, .connection] u.core.text u.addBatch s
        ∧ Reports [.executeUpdate, .generatedKeys] u.core.text .failed IsValue u.execute s
        ∧ Reports [.executeUpdate, .generatedKeys] u.core.text .failed (IsKeyOrNone u.core.text)
          u.executeReturningKey s
        ∧ Reports [.executeBatch, .generatedKeys] u.core.text .failed IsValue u.executeBatch s)
    -- Running a query.
    ∧ (∀ {α : Type} (m : Mapper D α) (q : Select D.transcribed α) (s : σ × Transcript),
      q.core.Live → q.mapper = m.transcribed →
        Reports [.setMaxRows (some 1), .executeQuery] q.core.text id IsValue q.execute s
          ∧ Reports [.executeQuery] q.core.text id IsValue q.executeForAll s)
    ∧ (∀ {α : Type} (m : Mapper D (Option α)) (q : Select D.transcribed (Option α)) (s : σ × Transcript),
      q.core.Live → q.mapper = m.transcribed →
        Reports [.setMaxRows (some 1), .executeQuery] q.core.text id IsValue q.executeScalar s) := by
  refine ⟨?preparing, ?registry, ?binding, ?update, ?query, ?scalar⟩
  case preparing =>
    intro k sql s text
    refine ⟨(prepare_hands k sql .generated s).map fun _ => rfl, ?_⟩
    intro α m
    exact (prepare_hands k sql .none s).map fun _ => rfl
  case registry =>
    intro r name sql
    refine ⟨Update.named_eq_bind r name sql, ?_⟩
    intro α m
    exact Select.named_eq_bind r name sql m
  case binding =>
    intro S _ q v s c hq
    refine ⟨fun name => hands_of_heeds (Core.bind_heeds name v hq) s, ?_⟩
    intro slot told
    split
    case isTrue hslot  => exact hands_of_heeds (Core.bindAt_heeds v hq hslot) s
    case isFalse hslot => exact bindIndex_refused hq hslot v s
  case update =>
    intro u s hu
    refine ⟨(hands_of_heeds (Core.addBatch_heeds hu) s).2, ?_, ?_, ?_⟩
    · exact update_execute_reports s hu
    · exact update_executeReturningKey_reports s hu
    · exact update_executeBatch_reports s hu
  case query =>
    intro α m q s hq hm
    exact ⟨select_execute_reports s hq hm, select_executeForAll_reports s hq hm⟩
  case scalar =>
    intro α m q s hq hm
    exact select_executeScalar_reports s hq hm

/-- A scripted database with a row that cannot be read, and nothing of which can be closed. -/
def Rehearsal.stuck : Rehearsal.Script where
  number      := 0
  name        := "stuck"
  tag         := "stuck"
  labels      := ["n"]
  rows        := [[.int 7]]
  keys        := []
  updateCount := 1
  batchCounts := none
  uncapped    := false
  faults      := [⟨.get, none, some "torn"⟩, ⟨.closeCursor, none, some "no"⟩, ⟨.closeStatement, none, some "nor"⟩,
                  ⟨.closeConnection, none, some "never"⟩]

/-- A query fails at its row, and an update succeeds; after either nothing can be closed. -/
theorem first_failure_told_stuck :
    ∃ (q : Select Rehearsal.driver.transcribed (Option Int64)) (u : Update Rehearsal.driver.transcribed)
        (s s' : Rehearsal.World × Transcript),
      (Select.onConnection Rehearsal.stuck "select n from t where n = :n" Mapper.long.transcribed).apply
          (Rehearsal.World.start, []) = (.ok q, s)
        ∧ Reports [.setMaxRows (some 1), .executeQuery] "select n from t where n = :n" id IsValue q.execute s
        ∧ (q.execute.apply s).1 = .error (.failed (.execute "select n from t where n = :n" (.saying "torn")))
        ∧ (q.execute.apply s).2.2.filterMap Step.closed? = [.cursor, .statement, .connection]
        ∧ (Update.onConnection (D := Rehearsal.driver.transcribed) Rehearsal.stuck "delete from t where n = :n").apply
          (Rehearsal.World.start, []) = (.ok u, s')
        ∧ Reports [.executeUpdate, .generatedKeys] "delete from t where n = :n" .failed IsValue u.execute s'
        ∧ (u.execute.apply s').1 = .error (.release .cursor (.saying "no"))
        ∧ (u.execute.apply s').2.2.filterMap Step.closed? = [.cursor, .statement, .connection] := by
  obtain ⟨-, -, -, hupdate, hquery, -⟩ := first_failure_told Rehearsal.driver
  refine ⟨_, _, _, _, rfl, ?_, ?_, ?_, rfl, ?_, ?_, ?_⟩
  · exact (hquery Mapper.long _ _ ⟨_, _, rfl⟩ rfl).1
  · rfl
  · rfl
  · exact (hupdate _ _ ⟨_, _, rfl⟩).2.1
  · rfl
  · rfl

end NamedSql
