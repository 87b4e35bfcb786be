import NamedSql.Proofs.Handle.Steps
import NamedSql.Proofs.MySql.Calls
import NamedSql.Statement.Mapper

/-!
# `Proofs.MySql.Sent` — what a server is sent

Any server can be made to remember the queries that it is asked to run, each with the values that its arguments stand
for. What it has been sent becomes a part of its state; nothing else changes.

## Contents
- `SentQuery`, `Server.recording`, `sent`; `recordingMapper`, a mapper over the world of before, which cannot
  reach the record.
- `SendsNothing`: steps that leave the record alone. Those that do not run a statement are of this sort, the
  release of a handle too (`cleanup_sendsNothing`).
- **Running.** `values_of_complete` and `values_of_missing` say what becomes of the slots; then
  `executeQuery_sent` and `executeUpdate_sent`: one query if all slots have values, and none otherwise.
-/

namespace NamedSql.MySql

variable {τ ο ε ε' α β : Type}

/-- A query with its arguments. -/
structure SentQuery where
  sql       : String
  arguments : List Value

/-- The same server, with a record of the queries that it is asked to run. -/
def Server.recording (server : Server τ) : Server (τ × List SentQuery) where
  acquire           := server.acquire.within Prod.fst fun t (_, qs) => (t, qs)
  prepare sql       := (server.prepare sql).within Prod.fst fun t (_, qs) => (t, qs)
  run sql arguments := .of fun (t, qs) =>
    let (r, t') := (server.run sql arguments).apply t
    (r, t', qs ++ [⟨sql, arguments.map Argument.value⟩])

/-- The far side with the record, and the loans of connections. -/
abbrev Recorded (τ : Type) := Pooled (τ × List SentQuery)

/-- The driver of servers with a record. -/
abbrev recordingDriver (τ : Type) : NamedSql.Driver (Recorded τ) := driver (τ × List SentQuery)

/-- The queries that have been sent. -/
def sent (p : Recorded τ) : List SentQuery := p.far.2

/-- The same mapper. Whatever it does to the far side, the record does not tell: it is of the queries of
    statements. -/
def recordingMapper (m : Mapper (driver τ) α) : Mapper (recordingDriver τ) α := fun n c =>
  (m n c).within (fun p => ⟨p.far.1, p.lent, p.returned⟩) fun p q => ⟨(p.far, q.far.2), p.lent, p.returned⟩

/-! ## Steps that send nothing -/

/-- Whatever a step does, the record stays as it is. -/
def SendsNothing (x : Attempt (ο × Recorded τ) ε α) : Prop :=
  ∀ o p, sent (x.apply (o, p)).2.2 = sent p

namespace SendsNothing

theorem pure (a : α) : SendsNothing (Pure.pure a : Attempt (ο × Recorded τ) ε α) :=
  fun _ _ => rfl

theorem locally (f : ο → Except Failure α × ο) :
    SendsNothing (MySql.locally f : Attempt (ο × Recorded τ) Failure α) := fun _ _ => rfl

/-- What is sent by a step and another one that sends nothing is what the first one sends. -/
theorem bind_sent {x : Attempt (ο × Recorded τ) ε α}
    {f : α → Attempt (ο × Recorded τ) ε β} (hf : ∀ a, SendsNothing (f a)) (o : ο)
    (p : Recorded τ) : sent ((x >>= f).apply (o, p)).2.2 = sent (x.apply (o, p)).2.2 := by
  rw [Attempt.bind_apply]
  match x.apply (o, p) with
  | (.ok a, s)    => exact hf a s.1 s.2
  | (.error e, s) => rfl

theorem bind {x : Attempt (ο × Recorded τ) ε α}
    {f : α → Attempt (ο × Recorded τ) ε β} (hx : SendsNothing x) (hf : ∀ a, SendsNothing (f a)) :
    SendsNothing (x >>= f) := by
  intro o p
  rw [bind_sent hf]
  exact hx o p

theorem reword {x : Attempt (ο × Recorded τ) ε α} (f : ε → ε') (h : SendsNothing x) :
    SendsNothing (x.reword f) := h

end SendsNothing

theorem opening_sent (wrap : α → Cursor) (x : Attempt (ο × Recorded τ) Failure α) (o : ο) (p : Recorded τ) :
    sent ((opening wrap x).apply (o, p)).2.2 = sent (x.apply (o, p)).2.2 :=
  SendsNothing.bind_sent (fun a => SendsNothing.pure (wrap a)) o p

theorem opening_of_error {x : Attempt (ο × Recorded τ) Failure α} {o o' : ο} {p p' : Recorded τ} {f : Failure}
    (h : x.apply (o, p) = (.error f, o', p')) (wrap : α → Cursor) :
    (opening wrap x).apply (o, p) = (.error f, o', p') := by
  unfold opening
  rw [Attempt.bind_apply, h]

/-- A mapper cannot reach the record. -/
theorem recordingMapper_sent (m : Mapper (driver τ) α) (n : Nat) (c : Cursor) (p : Recorded τ) :
    sent ((recordingMapper m n c).apply p).2 = sent p := rfl

theorem giveBack_sent (loan : Nat) (p : Recorded τ) : sent (p.giveBack loan) = sent p := by
  unfold Pooled.giveBack
  by_cases h : loan ∈ p.returned
  · rw [if_pos h]
  · rw [if_neg h]
    rfl

section Handle
open NamedSql.Handle

theorem closeCursor_sendsNothing : SendsNothing (closeCursor (D := recordingDriver τ)) := by
  rintro ⟨k, st, cur⟩ p
  cases cur with
  | none   => rfl
  | some c => rfl

theorem closeStatement_sendsNothing : SendsNothing (closeStatement (D := recordingDriver τ)) := by
  rintro ⟨k, st, cur⟩ p
  cases st with
  | none    => rfl
  | some st => rfl

theorem closeConnection_sendsNothing : SendsNothing (closeConnection (D := recordingDriver τ)) := by
  rintro ⟨k, st, cur⟩ p
  cases k with
  | none   => rfl
  | some k => exact giveBack_sent k.loan p

/-- Nothing is sent to release what a handle owns. -/
theorem cleanup_sendsNothing : SendsNothing (cleanup (D := recordingDriver τ)) := by
  intro h p
  show sent (closeConnection.apply (closeStatement.apply (closeCursor.apply (h, p)).2).2).2.2 = sent p
  rw [closeConnection_sendsNothing, closeStatement_sendsNothing, closeCursor_sendsNothing]

/-- A call on the statement sends what it sends by itself. -/
theorem call_sent (x : Attempt ((recordingDriver τ).Statement × Recorded τ) Failure α)
    (k : Option (recordingDriver τ).Connection) (st : (recordingDriver τ).Statement)
    (c : Option (recordingDriver τ).Cursor) (p : Recorded τ) :
    sent ((call x).apply (⟨k, some st, c⟩, p)).2.2 = sent (x.apply (st, p)).2.2 := by
  match hx : x.apply (st, p) with
  | (r, st', p') => rw [call_of_apply hx]

theorem call_sendsNothing {x : Attempt ((recordingDriver τ).Statement × Recorded τ) Failure α}
    (hx : SendsNothing x) : SendsNothing (call x) := by
  rintro ⟨k, st, c⟩ p
  cases st with
  | none    => rfl
  | some st => exact (call_sent x k st c p).trans (hx st p)

section
variable (wrap : Failure → ε)
  (opening : Attempt ((recordingDriver τ).Statement × Recorded τ) Failure (recordingDriver τ).Cursor)
  {work : Attempt ((recordingDriver τ).Cursor × Recorded τ) ε α} (hwork : SendsNothing work)
include hwork

theorem keepCursor_sendsNothing (c : (recordingDriver τ).Cursor) : SendsNothing (keepCursor work c) :=
  fun _ p => hwork c p

/-- The opening of a cursor sends what it sends by itself, if nothing is sent while one works with the
    cursor. -/
theorem withCursor_sent (k : Option (recordingDriver τ).Connection) (st : (recordingDriver τ).Statement)
    (p : Recorded τ) :
    sent ((withCursor wrap opening work).apply (⟨k, some st, none⟩, p)).2.2
      = sent (opening.apply (st, p)).2.2 := by
  rw [withCursor_of_none wrap opening work rfl]
  unfold openCursor
  rw [SendsNothing.bind_sent (keepCursor_sendsNothing hwork)]
  exact call_sent opening k st none p

theorem withCursor_sendsNothing (hopening : SendsNothing opening) :
    SendsNothing (withCursor wrap opening work) :=
  SendsNothing.bind (closeCursor_sendsNothing.reword _) fun _ =>
    SendsNothing.bind ((call_sendsNothing hopening).reword wrap) (keepCursor_sendsNothing hwork)

end

end Handle

/-! ## Running -/

namespace Prepared

theorem values_of_complete (slot : Nat) (vs : List Value) : values slot (vs.map some) = .ok vs := by
  induction vs generalizing slot with
  | nil => rfl
  | cons v vs ih =>
    show (values (slot + 1) (vs.map some)).map (v :: ·) = _
    rw [ih]
    rfl

/-- The first slot without a value is reported. -/
theorem values_of_missing (slot : Nat) (vs : List Value) (rest : List (Option Value)) :
    values slot (vs.map some ++ none :: rest) = .error (Fault.unbound (slot + vs.length)).failure := by
  induction vs generalizing slot with
  | nil => rfl
  | cons v vs ih =>
    show (values (slot + 1) (vs.map some ++ none :: rest)).map (v :: ·) = _
    rw [ih, List.length_cons, Nat.add_right_comm slot 1, Nat.add_assoc]
    rfl

variable {s : Prepared (τ × List SentQuery)} {server : Server τ} {p : Recorded τ}
  {vs : List Value}

/-- Over an open connection each run sends one query. -/
theorem run_sent (hserver : s.session.server = server.recording) (hopen : s.session.loan ∉ p.returned)
    (vs : List Value) : sent ((s.run vs).apply p).2 = sent p ++ [⟨s.sql, vs⟩] := by
  have hvalues : (vs.map Argument.ofValue).map Argument.value = vs := Argument.map_value_ofValue vs
  rw [run, Attempt.reword_apply, Session.run, Pooled.onLoan, Attempt.of_apply, if_neg hopen, hserver]
  show sent p ++ [⟨s.sql, (vs.map Argument.ofValue).map Argument.value⟩] = _
  rw [hvalues]

theorem fetch_sent (hserver : s.session.server = server.recording) (hopen : s.session.loan ∉ p.returned)
    (hlimit : s.limit ≠ some 0) (vs : List Value) :
    sent ((s.fetch vs).apply p).2 = sent p ++ [⟨s.sql, vs⟩] := by
  rw [fetch_of_ne_zero hlimit, Attempt.map_apply]
  exact run_sent hserver hopen vs

/-- A query that has all its values is sent once. -/
theorem executeQuery_sent (hserver : s.session.server = server.recording) (hopen : s.session.loan ∉ p.returned)
    (hlimit : s.limit ≠ some 0) (hvs : s.arguments = .ok vs) :
    sent (executeQuery.apply (s, p)).2.2 = sent p ++ [⟨s.sql, vs⟩] := by
  rw [executeQuery, Attempt.of_apply]
  simp only [hvs]
  exact fetch_sent hserver hopen hlimit vs

/-- An update that has all its values is sent once. -/
theorem executeUpdate_sent (hserver : s.session.server = server.recording) (hopen : s.session.loan ∉ p.returned)
    (hvs : s.arguments = .ok vs) : sent (executeUpdate.apply (s, p)).2.2 = sent p ++ [⟨s.sql, vs⟩] := by
  have hsent := run_sent hserver hopen vs
  rw [executeUpdate, Attempt.of_apply]
  simp only [hvs]
  rcases hr : (s.run vs).apply p with ⟨f | reply, p'⟩
  · rwa [hr] at hsent
  · rwa [hr] at hsent

theorem executeQuery_of_error {f : Failure} (hf : s.arguments = .error f) :
    executeQuery.apply (s, p) = (.error f, s, p) := by
  rw [executeQuery, Attempt.of_apply]
  simp only [hf]

theorem executeUpdate_of_error {f : Failure} (hf : s.arguments = .error f) :
    executeUpdate.apply (s, p) = (.error f, s, p) := by
  rw [executeUpdate, Attempt.of_apply]
  simp only [hf]

end Prepared

end NamedSql.MySql
