import NamedSql.Proofs.MySql.Calls
import Mathlib.Data.List.DropRight
import Mathlib.Data.List.Forall2
import Mathlib.Data.List.ReduceOption

/-!
# `Proofs.MySql.Batches` — every entry once, and in order

A statement queues entries and later runs them. Between an entry and its execution anything may happen: other
values are bound, the statement is run by itself, an execution fails halfway. The entries are told apart by the
moments at which they were queued, so an entry that was sent twice could be told from two equal ones.

## Contents
- `Moment.queues`, `Moment.values`, `Moment.empties`; `waiting`: the entries that are queued after some moments.
- **Senders.** `Moment.runs`; `senders`, the moments whose values a call sends, itself and entries alike, and `sending`,
  the entries among them. `Moment.Sent`, and `Moment.Exchanges` for all that a call may exchange.
- **Running.** `runEntries_exchanges`: how a list of entries is sent, up to the first that fails;
  `Moment.RunsBatch` says it of a call, and `Moment.runsBatch` proves it. `query_log` and `update_log` for a statement
  that is run by itself, and `Does.log_grows` for any call. `Moment.exchanges_of_server` puts them together.
- **Step and run.** `Holds`, what each call keeps (`Holds.step`); `sendings`, the entries that are sent in a run, and
  `sendings_sublist`.
- `batches_in_order`.
-/

namespace NamedSql.MySql

open scoped List
open Prepared

variable {τ β : Type}

/-! ## Entries -/

namespace Moment

/-- Whether the call queues an entry. -/
def queues (m : Moment τ) : Bool :=
  match m.call, m.answer with
  | .addBatch, .ok _ => true
  | _, _             => false

/-- The values that are bound when the call is made. -/
def values (m : Moment τ) : List Value := m.statement.slots.reduceOption

/-- Whether nothing is queued after the call. -/
def empties (m : Moment τ) : Bool :=
  match m.call with
  | .executeBatch | .close => true
  | _                      => false

theorem values_of_slots {m : Moment τ} {vs : List Value} (h : m.statement.slots = vs.map some) : m.values = vs := by
  rw [values, h]
  simp [List.reduceOption]

end Moment

/-- The entries that wait after some moments: those that were queued since the queue was emptied last. -/
def waiting (ms : List (Moment τ)) : List (Moment τ) := (ms.rtakeWhile fun m => !m.empties).filter Moment.queues

theorem waiting_concat (ms : List (Moment τ)) (m : Moment τ) :
    waiting (ms ++ [m])
      = if m.empties then [] else if m.queues then waiting ms ++ [m] else waiting ms := by
  unfold waiting
  by_cases hempties : m.empties = true
  · rw [if_pos hempties, List.rtakeWhile_concat_neg _ _ _ (by simp [hempties])]
    rfl
  · rw [if_neg hempties, List.rtakeWhile_concat_pos _ _ _ (by simp [hempties]), List.filter_append]
    by_cases hqueues : m.queues = true
    · rw [if_pos hqueues, List.filter_cons_of_pos hqueues, List.filter_nil]
    · rw [if_neg hqueues, List.filter_cons_of_neg hqueues, List.filter_nil, List.append_nil]

/-! ## Senders -/

/-- Whether the call runs the statement with the values that are bound. -/
def Moment.runs (m : Moment τ) : Bool :=
  match m.call with
  | .executeQuery | .executeUpdate => true
  | _                              => false

/-- The call itself, if it runs the statement. -/
def Moment.own (m : Moment τ) : List (Moment τ) := if m.runs then [m] else []

/-- The moments whose values a call sends, if some moments came before it, one for each exchange: the call itself if it
    runs the statement, and then the entries that wait, from the front of the queue. -/
def senders (before : List (Moment τ)) (m : Moment τ) : List (Moment τ) :=
  (m.own ++ waiting before).take m.exchanges.length

/-- The entries that a call sends. -/
def sending (before : List (Moment τ)) (m : Moment τ) : List (Moment τ) := (senders before m).drop m.own.length

/-- The statement is run with the values of a moment. -/
def Moment.Sent (sql : String) (m : Moment τ) (x : Exchange) : Prop := ∃ answer, x = .ran sql m.values answer

/-! ## Running -/

/-- An entry that the server has run, as an exchange. -/
def answered (sql : String) (values : β → List Value) (d : β × Response) : Exchange := .ran sql (values d.1) (.ok d.2)

/-- The entries are sent one after the other, until one of them fails; over a connection that is closed, the first
    one fails without being sent. -/
theorem runEntries_exchanges {server : Server τ} {s : Prepared (τ × List Exchange)}
    (hserver : s.session.server = server.logged) (values : β → List Value) (q : List β) (p : Logged τ) :
    (∃ done : List (β × Response), ∃ p', done.map Prod.fst = q
      ∧ (s.runEntries (q.map values)).apply p = (.ok (done.map fun d => d.2.effect), p')
      ∧ log p' = log p ++ done.map (answered s.sql values)) ∨
    (∃ done : List (β × Response), ∃ e rest fault p', q = done.map Prod.fst ++ e :: rest
      ∧ (s.runEntries (q.map values)).apply p = (.error fault.failure, p')
      ∧ log p' = log p ++ (done.map (answered s.sql values) ++ [.ran s.sql (values e) (.error fault)])) ∨
    (q ≠ [] ∧ s.session.loan ∈ p.returned
      ∧ (s.runEntries (q.map values)).apply p = (.error Fault.connectionClosed.failure, p)) := by
  by_cases hclosed : s.session.loan ∈ p.returned
  · cases q with
    | nil       => exact .inl ⟨[], p, rfl, rfl, (List.append_nil _).symm⟩
    | cons e es =>
      have hrun := run_of_closed hclosed (values e)
      exact .inr (.inr ⟨List.cons_ne_nil _ _, hclosed, Attempt.bind_of_error hrun _⟩)
  -- A connection that is open stays open, so the induction is on the entries that are left.
  induction q generalizing p with
  | nil => exact .inl ⟨[], p, rfl, rfl, (List.append_nil _).symm⟩
  | cons e es ih =>
    obtain ⟨r, p₁, hrun, hlog, hreturned⟩ := run_of_open hserver hclosed (values e)
    have hopen : s.session.loan ∉ p₁.returned := hreturned ▸ hclosed
    cases r with
    | error fault => exact .inr (.inl ⟨[], e, es, fault, p₁, rfl, Attempt.bind_of_error hrun _, hlog⟩)
    | ok reply    =>
      have hran : (s.run (values e)).apply p = (.ok reply, p₁) := hrun
      rw [List.map_cons, runEntries, Attempt.bind_apply, hran]
      simp only [Attempt.bind_apply]
      rcases ih p₁ hopen with ⟨done, p', hdone, hend, hlog'⟩ |
        ⟨done, e', rest, fault, p', hes, hend, hlog'⟩ | ⟨-, hclosed', -⟩
      · -- All of the rest succeed.
        refine .inl ⟨(e, reply) :: done, p', ?_, ?_, ?_⟩
        · rw [List.map_cons, hdone]
        · rw [hend]
          rfl
        · rw [hlog', hlog, List.append_assoc]
          rfl
      · -- One of the rest fails.
        refine .inr (.inl ⟨(e, reply) :: done, e', rest, fault, p', ?_, ?_, ?_⟩)
        · rw [hes]
          rfl
        · rw [hend]
        · rw [hlog', hlog, List.append_assoc]
          rfl
      · exact absurd hclosed' hopen

/-- How a batch is run when some entries wait. -/
structure Moment.RunsBatch (sql : String) (q : List (Moment τ)) (m : Moment τ) : Prop where
  /-- If the call succeeds, all of them have been sent in their order, and each has its count. -/
  succeeds : ∀ a, m.answer = .ok a → ∃ done : List (Moment τ × Response), done.map Prod.fst = q
    ∧ m.exchanges = done.map (answered sql Moment.values)
    ∧ a = .counts (done.map fun d => affectedRows d.2.effect.1)
  /-- If it fails, one of them has failed, and those behind it have not been sent; or the connection is closed. -/
  fails : ∀ f, m.answer = .error f →
    (∃ done : List (Moment τ × Response), ∃ e rest fault, q = done.map Prod.fst ++ e :: rest
      ∧ m.exchanges = done.map (answered sql Moment.values) ++ [.ran sql e.values (.error fault)]
      ∧ f = fault.failure) ∨
    (m.statement.session.loan ∈ m.pool.returned ∧ q ≠ [] ∧ m.exchanges = []
      ∧ f = Fault.connectionClosed.failure)
  /-- Either way nothing is queued any more. -/
  emptied : m.after.1.batch = []

theorem Moment.runsBatch {server : Server τ} {q : List (Moment τ)} {m : Moment τ}
    (hserver : m.statement.session.server = server.logged) (hbatch : m.statement.batch = q.map Moment.values)
    (hcall : m.call = .executeBatch) : m.RunsBatch m.statement.sql q := by
  have hentries := runEntries_exchanges hserver Moment.values q m.pool
  rw [← hbatch] at hentries
  have hdoes := m.does
  rw [hcall] at hdoes
  generalize hout : m.outcome = out at hdoes
  have hexchanges : ∀ es, log out.2.2 = log m.pool ++ es → m.exchanges = es := by
    intro es hlog
    exact exchanges_eq (by rw [after, hout, hlog])
  -- How the call ended tells in which of the three ways the entries went.
  cases hdoes with
  | @batchFailed f p' hrun =>
    rw [hrun] at hentries
    refine ⟨?_, ?_, ?_⟩
    · intro a ha
      rw [answer, hout] at ha
      exact absurd ha (by simp)
    · intro f' hf'
      rw [answer, hout] at hf'
      obtain rfl : f = f' := Except.error.inj hf'
      rcases hentries with ⟨done, p'', -, heq, -⟩ | ⟨done, e, rest, fault, p'', hq, heq, hlog⟩ | ⟨hq, hclosed, heq⟩
      · exact absurd (congrArg Prod.fst heq) (by simp)
      · obtain ⟨hf, rfl⟩ := Prod.mk.inj heq
        exact .inl ⟨done, e, rest, fault, hq, hexchanges _ hlog, Except.error.inj hf⟩
      · obtain ⟨hf, rfl⟩ := Prod.mk.inj heq
        exact .inr ⟨hclosed, hq, hexchanges [] (List.append_nil _).symm, Except.error.inj hf⟩
    · rw [after, hout]
  | @batchRun effects p' hrun =>
    rw [hrun] at hentries
    refine ⟨?_, ?_, ?_⟩
    · intro a ha
      rw [answer, hout] at ha
      obtain rfl := Except.ok.inj ha
      rcases hentries with ⟨done, p'', hq, heq, hlog⟩ | ⟨done, e, rest, fault, p'', hq, heq, -⟩ | ⟨-, -, heq⟩
      · obtain ⟨heffects, rfl⟩ := Prod.mk.inj heq
        obtain rfl := Except.ok.inj heffects
        refine ⟨done, hq, hexchanges _ hlog, ?_⟩
        rw [List.map_map]
        rfl
      · exact absurd (congrArg Prod.fst heq) (by simp)
      · exact absurd (congrArg Prod.fst heq) (by simp)
    · intro f hf
      rw [answer, hout] at hf
      exact absurd hf (by simp)
    · rw [after, hout]

/-- What a batch exchanges are the entries from the front of the queue, one after the other. -/
theorem Moment.RunsBatch.sent {sql : String} {q : List (Moment τ)} {m : Moment τ} (h : m.RunsBatch sql q) :
    List.Forall₂ (Moment.Sent sql) (q.take m.exchanges.length) m.exchanges := by
  have hdone : ∀ done : List (Moment τ × Response),
      List.Forall₂ (Moment.Sent sql) (done.map Prod.fst) (done.map (answered sql Moment.values)) := by
    intro done
    rw [List.forall₂_map_left_iff, List.forall₂_map_right_iff, List.forall₂_same]
    exact fun d _ => ⟨.ok d.2, rfl⟩
  match hanswer : m.answer with
  | .ok a    =>
    obtain ⟨done, rfl, hexchanges, -⟩ := h.succeeds a hanswer
    rw [hexchanges, List.take_of_length_le (by simp)]
    exact hdone done
  | .error f =>
    rcases h.fails f hanswer with ⟨done, e, rest, fault, rfl, hexchanges, -⟩ | ⟨-, -, hexchanges, -⟩
    · have hlength : (done.map (answered sql Moment.values) ++ [Exchange.ran sql e.values (.error fault)]).length
          = (done.map Prod.fst ++ [e]).length := by simp
      have hfront : done.map Prod.fst ++ e :: rest = (done.map Prod.fst ++ [e]) ++ rest := by simp
      rw [hexchanges, hlength, hfront, List.take_left]
      exact List.rel_append (hdone done) (.cons ⟨.error fault, rfl⟩ .nil)
    · rw [hexchanges]
      exact .nil

section
variable {server : Server τ} {s : Prepared (τ × List Exchange)} {p : Logged τ}
  {out : Except Failure Answer × Prepared (τ × List Exchange) × Logged τ}
  (hserver : s.session.server = server.logged)
include hserver

/-- To run a statement is to exchange one request, or none if the connection is closed. -/
theorem run_log (vs : List Value) :
    log ((s.run vs).apply p).2 = log p ∨ ∃ answer, log ((s.run vs).apply p).2 = log p ++ [.ran s.sql vs answer] := by
  by_cases hclosed : s.session.loan ∈ p.returned
  · rw [run_of_closed hclosed vs]
    exact .inl rfl
  · obtain ⟨r, p', hrun, hlog, -⟩ := run_of_open hserver hclosed vs
    rw [hrun]
    exact .inr ⟨r, hlog⟩

theorem query_log (h : s.Does p .executeQuery out) :
    log out.2.2 = log p ∨ ∃ vs answer, s.slots = vs.map some ∧ log out.2.2 = log p ++ [.ran s.sql vs answer] := by
  cases h with
  | notQueried f     => exact .inl rfl
  | @queried vs hvs  =>
    by_cases hlimit : s.limit = some 0
    · -- Without a row to fetch the server is not asked.
      rw [fetch_of_zero hlimit, Attempt.reword_apply, Pooled.onLoan, Attempt.of_apply]
      by_cases hclosed : s.session.loan ∈ p.returned
      · rw [if_pos hclosed]
        exact .inl rfl
      · rw [if_neg hclosed]
        exact .inl rfl
    · rw [fetch_of_ne_zero hlimit, Attempt.map_apply]
      rcases run_log hserver vs with hlog | ⟨answer, hlog⟩
      · exact .inl hlog
      · exact .inr ⟨vs, answer, hvs, hlog⟩

theorem update_log (h : s.Does p .executeUpdate out) :
    log out.2.2 = log p ∨ ∃ vs answer, s.slots = vs.map some ∧ log out.2.2 = log p ++ [.ran s.sql vs answer] := by
  have hran : ∀ vs r p', s.slots = vs.map some → (s.run vs).apply p = (r, p') →
      log p' = log p ∨ ∃ vs answer, s.slots = vs.map some ∧ log p' = log p ++ [.ran s.sql vs answer] := by
    intro vs r p' hvs hrun
    have hlog := run_log (p := p) hserver vs
    rw [hrun] at hlog
    rcases hlog with hlog | ⟨answer, hlog⟩
    · exact .inl hlog
    · exact .inr ⟨vs, answer, hvs, hlog⟩
  cases h with
  | notUpdated f          => exact .inl rfl
  | updateFailed hvs hrun => exact hran _ _ _ hvs hrun
  | updated hvs hrun      => exact hran _ _ _ hvs hrun

/-- What was exchanged before a call stays in the log. -/
theorem Prepared.Does.log_grows {c : Call} (h : s.Does p c out) : ∃ es, log out.2.2 = log p ++ es := by
  have hbatch : ∀ r p', (s.runEntries s.batch).apply p = (r, p') → ∃ es, log p' = log p ++ es := by
    intro r p' hrun
    have hentries := runEntries_exchanges hserver id s.batch p
    rw [List.map_id, hrun] at hentries
    rcases hentries with ⟨done, p'', -, heq, hlog⟩ | ⟨done, e, rest, fault, p'', -, heq, hlog⟩ | ⟨-, -, heq⟩
    · obtain ⟨-, rfl⟩ := Prod.mk.inj heq
      exact ⟨_, hlog⟩
    · obtain ⟨-, rfl⟩ := Prod.mk.inj heq
      exact ⟨_, hlog⟩
    · obtain ⟨-, rfl⟩ := Prod.mk.inj heq
      exact ⟨[], (List.append_nil _).symm⟩
  have hown : (log out.2.2 = log p ∨ ∃ vs answer, s.slots = vs.map some
      ∧ log out.2.2 = log p ++ [.ran s.sql vs answer]) → ∃ es, log out.2.2 = log p ++ es := by
    rintro (hlog | ⟨vs, answer, -, hlog⟩)
    · exact ⟨[], hlog.trans (List.append_nil _).symm⟩
    · exact ⟨_, hlog⟩
  cases c with
  | executeQuery  => exact hown (query_log hserver h)
  | executeUpdate => exact hown (update_log hserver h)
  | executeBatch  =>
    cases h with
    | batchFailed hrun => exact hbatch _ _ hrun
    | batchRun hrun    => exact hbatch _ _ hrun
  | _             =>
    cases h with
    | _ => exact ⟨[], (List.append_nil _).symm⟩

end

/-- What a call exchanges, if some entries wait. -/
structure Moment.Exchanges (sql : String) (q : List (Moment τ)) (m : Moment τ) : Prop where
  /-- It comes behind all that was exchanged before. -/
  behind : log m.after.2 = log m.pool ++ m.exchanges
  /-- A batch sends the entries. -/
  batch : m.call = .executeBatch → m.RunsBatch sql q
  /-- A query or an update is run once at most, and then with all the values that are bound. -/
  own : m.runs = true →
    m.exchanges = [] ∨ m.statement.slots = m.values.map some ∧ ∃ answer, m.exchanges = [.ran sql m.values answer]
  /-- No other call says anything to the server. -/
  others : m.call ≠ .executeBatch → m.runs = false → m.exchanges = []

theorem Moment.exchanges_of_runs {server : Server τ} {m : Moment τ}
    (hserver : m.statement.session.server = server.logged) (hruns : m.runs = true) :
    m.exchanges = [] ∨ m.statement.slots = m.values.map some
      ∧ ∃ answer, m.exchanges = [.ran m.statement.sql m.values answer] := by
  have hlog : log m.after.2 = log m.pool ∨ ∃ vs answer, m.statement.slots = vs.map some
      ∧ log m.after.2 = log m.pool ++ [.ran m.statement.sql vs answer] := by
    have hdoes := m.does
    unfold runs at hruns
    generalize m.call = c at hdoes hruns
    cases c with
    | executeQuery  => exact query_log hserver hdoes
    | executeUpdate => exact update_log hserver hdoes
    | _             => exact absurd hruns Bool.false_ne_true
  rcases hlog with hlog | ⟨vs, answer, hvs, hlog⟩
  · exact .inl (exchanges_eq (hlog.trans (List.append_nil _).symm))
  · obtain rfl : m.values = vs := values_of_slots hvs
    exact .inr ⟨hvs, answer, exchanges_eq hlog⟩

theorem Moment.exchanges_of_others {m : Moment τ} (hcall : m.call ≠ .executeBatch) (hruns : m.runs = false) :
    m.exchanges = [] := by
  have hpool : m.after.2 = m.pool := by
    have hdoes := m.does
    unfold runs at hruns
    unfold after
    generalize m.call = c at hdoes hcall hruns
    generalize m.outcome = out at hdoes ⊢
    cases hdoes with
    | batchFailed | batchRun                                     => exact absurd rfl hcall
    | notQueried | queried | notUpdated | updateFailed | updated => exact absurd hruns.symm Bool.false_ne_true
    | _                                                          => rfl
  exact exchanges_eq (by rw [hpool, List.append_nil])

theorem Moment.exchanges_of_server {server : Server τ} {q : List (Moment τ)} {m : Moment τ}
    (hserver : m.statement.session.server = server.logged) (hbatch : m.statement.batch = q.map Moment.values) :
    m.Exchanges m.statement.sql q where
  behind := by
    obtain ⟨es, hlog⟩ := m.does.log_grows hserver
    rw [exchanges_eq hlog]
    exact hlog
  batch  := runsBatch hserver hbatch
  own    := exchanges_of_runs hserver
  others := exchanges_of_others

namespace Moment.Exchanges

variable {sql : String} {before : List (Moment τ)} {m : Moment τ}

/-- The exchanges of a call have the values of its senders. -/
theorem sent (h : m.Exchanges sql (waiting before)) :
    List.Forall₂ (Moment.Sent sql) (senders before m) m.exchanges := by
  unfold senders Moment.own
  by_cases hruns : m.runs = true
  · rw [if_pos hruns]
    rcases h.own hruns with hnone | ⟨-, answer, hone⟩
    · rw [hnone]
      exact .nil
    · rw [hone]
      exact .cons ⟨answer, rfl⟩ .nil
  · rw [if_neg hruns, List.nil_append]
    by_cases hcall : m.call = .executeBatch
    · exact (h.batch hcall).sent
    · rw [h.others hcall (eq_false_of_ne_true hruns)]
      exact .nil

/-- Entries are sent by batches only, and from those that wait. -/
theorem sending_sublist (h : m.Exchanges sql (waiting before)) :
    sending before m <+ if m.empties then waiting before else [] := by
  unfold sending senders Moment.own
  by_cases hruns : m.runs = true
  · have hlength : m.exchanges.length ≤ 1 := by
      rcases h.own hruns with hnone | ⟨-, answer, hone⟩
      · simp [hnone]
      · simp [hone]
    have hnone : (([m] ++ waiting before).take m.exchanges.length).drop [m].length = [] := by
      rw [List.drop_eq_nil_iff, List.length_take]
      exact (Nat.min_le_left _ _).trans hlength
    rw [if_pos hruns, hnone]
    exact List.nil_sublist _
  · rw [if_neg hruns, List.nil_append, List.length_nil, List.drop_zero]
    by_cases hcall : m.call = .executeBatch
    · have hempties : m.empties = true := by
        rw [empties, hcall]
      rw [if_pos hempties]
      exact List.take_sublist _ _
    · rw [h.others hcall (eq_false_of_ne_true hruns)]
      exact List.nil_sublist _

end Moment.Exchanges

/-! ## Steps and runs -/

/-- What is queued after a call. -/
theorem Moment.after_batch (m : Moment τ) :
    m.after.1.batch
      = if m.empties then [] else if m.queues then m.statement.batch ++ [m.values] else m.statement.batch := by
  obtain ⟨n, c, s, p⟩ := m
  have hvalues : ∀ vs, s.slots = vs.map some → (⟨n, c, s, p⟩ : Moment τ).values = vs := by
    intro vs hvs
    exact values_of_slots hvs
  have hdoes := Moment.does ⟨n, c, s, p⟩
  unfold after empties queues answer
  generalize outcome _ = out at hdoes ⊢
  cases hdoes with
  | queued hvs =>
    rw [hvalues _ hvs]
    rfl
  | _          => rfl

/-- A statement whose queue is what waits after some moments. -/
structure Holds (server : Server τ) (sql : String) (before : List (Moment τ))
    (s : Prepared (τ × List Exchange) × Logged τ) : Prop where
  server : s.1.session.server = server.logged
  sql    : s.1.sql = sql
  batch  : s.1.batch = (waiting before).map Moment.values

theorem Holds.step {server : Server τ} {sql : String} (before : List (Moment τ)) (m : Moment τ)
    (h : Holds server sql before (m.statement, m.pool)) : Holds server sql (before ++ [m]) m.after := by
  have hsame : SameStatement m.statement m.after.1 := m.does.keeps.1
  refine ⟨?_, hsame.sql.trans h.sql, ?_⟩
  · rw [hsame.session]
    exact h.server
  · rw [m.after_batch, waiting_concat]
    by_cases hempties : m.empties = true
    · rw [if_pos hempties, if_pos hempties]
      rfl
    · rw [if_neg hempties, if_neg hempties]
      by_cases hqueues : m.queues = true
      · rw [if_pos hqueues, if_pos hqueues, List.map_append, ← h.batch]
        rfl
      · rw [if_neg hqueues, if_neg hqueues]
        exact h.batch

/-- The entries that are sent in a run, if some moments came before it. -/
def sendings (before : List (Moment τ)) : List (Moment τ) → List (Moment τ)
  | []      => []
  | m :: ms => sending before m ++ sendings (before ++ [m]) ms

/-- What is sent is some of what waits at first and of what is queued later, in the same order: what a call sends
    is taken from the front of the queue, and the queue is empty after it. -/
theorem sendings_sublist {sql : String} (ms before : List (Moment τ))
    (hms : ∀ done m rest, ms = done ++ m :: rest → m.Exchanges sql (waiting (before ++ done))) :
    sendings before ms <+ waiting before ++ ms.filter Moment.queues := by
  induction ms generalizing before with
  | nil => exact List.nil_sublist _
  | cons m ms ih =>
    have hnow := (hms [] m ms rfl).sending_sublist
    have hlater := ih (before ++ [m]) (by
      intro done m' rest hrest
      rw [List.append_assoc]
      exact hms (m :: done) m' rest (congrArg (m :: ·) hrest))
    rw [List.append_nil] at hnow
    rw [sendings]
    rw [waiting_concat] at hlater
    by_cases hempties : m.empties = true
    · -- What is sent later was queued after this call.
      rw [if_pos hempties] at hnow hlater
      have hrest : ms.filter Moment.queues <+ (m :: ms).filter Moment.queues :=
        (List.sublist_cons_self m ms).filter _
      exact hnow.append (hlater.trans hrest)
    · -- Nothing is sent now, and what waits goes on waiting.
      rw [if_neg hempties] at hnow hlater
      rw [List.sublist_nil.mp hnow, List.nil_append]
      by_cases hqueues : m.queues = true
      · rw [if_pos hqueues, List.append_assoc] at hlater
        rw [List.filter_cons_of_pos hqueues]
        exact hlater
      · rw [if_neg hqueues] at hlater
        rw [List.filter_cons_of_neg hqueues]
        exact hlater

/-- A call that is to queue an entry queues all the values, or it changes nothing. -/
theorem Moment.addBatch_does {m : Moment τ} (hcall : m.call = .addBatch) :
    (m.queues = true → m.statement.slots = m.values.map some)
      ∧ ∀ f, m.answer = .error f → m.queues = false ∧ m.after = (m.statement, m.pool) := by
  have hdoes := m.does
  rw [hcall] at hdoes
  unfold queues answer after
  generalize m.outcome = out at hdoes ⊢
  cases hdoes with
  | queued hvs  =>
    refine ⟨?_, ?_⟩
    · intro _
      rw [values_of_slots hvs]
      exact hvs
    · intro f hf
      exact absurd hf (by simp)
  | notQueued f =>
    rw [hcall]
    exact ⟨fun hfalse => absurd hfalse Bool.false_ne_true, fun _ _ => ⟨rfl, rfl⟩⟩

/-- **Batches are run in order, and no entry twice.** Whatever is done with a statement and whichever executions
    fail: an entry that is queued consists of the values that are bound at that moment, and a call that fails to
    queue one changes nothing; a batch sends the entries that were queued since the last batch or close, in their
    order, up to the first that fails, and none of them waits any longer. A query or an update runs the statement once
    at most, with the values that are bound, and no other call says anything to the server. So each exchange has the
    values of one sender, and over a whole run the entries that are sent are some of those that were queued, in the
    same order, and each of them is sent once. -/
theorem batches_in_order (server : Server τ) (loan : Nat) (sql : String) (keys : KeyCapture) (count : Nat)
    (p : Logged τ) (calls : List Prepared.Call) :
    let ms := moments 0 calls (Prepared.fresh ⟨server.logged, loan⟩ sql keys count, p)
    (∀ m ∈ ms, m.call = .addBatch →
        (m.queues = true → m.statement.slots = m.values.map some)
          ∧ ∀ f, m.answer = .error f → m.queues = false ∧ m.after = (m.statement, m.pool))
      ∧ (∀ before m after, ms = before ++ m :: after →
          m.Exchanges sql (waiting before)
            ∧ List.Forall₂ (Moment.Sent sql) (senders before m) m.exchanges)
      ∧ sendings [] ms <+ ms.filter Moment.queues
      ∧ (ms.map Moment.number).Nodup := by
  intro ms
  have hbegin : Holds server sql [] (Prepared.fresh ⟨server.logged, loan⟩ sql keys count, p) := ⟨rfl, rfl, rfl⟩
  have hexchanges : ∀ before m after, ms = before ++ m :: after → m.Exchanges sql (waiting before) := by
    intro before m after hms
    have hholds := moments_invariant Holds.step calls 0 hbegin hms
    have hcall := Moment.exchanges_of_server hholds.server hholds.batch
    rwa [hholds.sql] at hcall
  refine ⟨fun m _ => Moment.addBatch_does, ?_, sendings_sublist ms [] hexchanges, ?_⟩
  · intro before m after hms
    exact ⟨hexchanges before m after hms, (hexchanges before m after hms).sent⟩
  · rw [map_number_moments]
    exact List.nodup_range'

/-- What the server says to a row that is there already. -/
def duplicate : Fault := .server ⟨1062, some "23000", "Duplicate entry"⟩

/-- A server that runs one statement, for which it generates the key 5, and refuses all others. -/
def refusingServer : Server Bool where
  acquire     := return ()
  prepare _   := return 0
  run _ _     := .of fun spent => if spent then (.error duplicate, true) else (.ok (.done 1 5), true)

/-- A statement that queues two entries and runs them, is then run by itself, and runs what is queued once more. -/
def insertions : List (Moment Bool) :=
  moments 0 [.bind 1 (.int 1), .addBatch, .bind 1 (.int 2), .addBatch, .executeBatch, .executeUpdate, .executeBatch]
    (Prepared.fresh ⟨refusingServer.logged, 0⟩ "insert into t (a) values (?)" .none 1, .ofFar (false, []))

/-- The second entry fails, and so does the update, with values of its own; no entry is sent once more. -/
theorem batches_in_order_refused :
    insertions.map Moment.exchanges
        = [[], [], [], [],
            [.ran "insert into t (a) values (?)" [.int 1] (.ok (.done 1 5)),
              .ran "insert into t (a) values (?)" [.int 2] (.error duplicate)],
            [.ran "insert into t (a) values (?)" [.int 2] (.error duplicate)], []]
      ∧ (sendings [] insertions).map Moment.values = [[.int 1], [.int 2]]
      ∧ sendings [] insertions <+ insertions.filter Moment.queues
      ∧ ∃ m ∈ insertions, m.call = .addBatch ∧ m.queues = true ∧ m.statement.slots = m.values.map some := by
  obtain ⟨hqueued, -, honce, -⟩ := batches_in_order refusingServer 0 "insert into t (a) values (?)" .none 1
    (.ofFar (false, [])) [.bind 1 (.int 1), .addBatch, .bind 1 (.int 2), .addBatch, .executeBatch, .executeUpdate,
      .executeBatch]
  refine ⟨rfl, rfl, honce, ?_⟩
  obtain ⟨m, hm, hcall, hqueues⟩ : ∃ m ∈ insertions, m.call = .addBatch ∧ m.queues = true :=
    ⟨_, List.mem_cons_of_mem _ (List.mem_cons_self ..), rfl, rfl⟩
  exact ⟨m, hm, hcall, hqueues, (hqueued m hm hcall).1 hqueues⟩

end NamedSql.MySql
