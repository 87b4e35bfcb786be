import NamedSql.Proofs.Ledger.Running
import NamedSql.Proofs.Statement.Setting

/-!
# `Proofs.Ledger.Life` — whole lives of queries and updates

A statement is prepared on a connection, values are bound to it, and in the end it is run or let go. Its life
is told as a list of moments, one for the end of each call. Nothing is assumed of the driver, of the connectors
or of the mapper: each call may fail, and a mapper may abandon the operation.

## Contents
- **Calls.** `Life.Binding`, `Select.Move`, `Update.Move`, `Select.Ending`, `Update.Ending`, with what they do
  to a statement; `Life.Origin`, where the connection comes from.
- `Life`, `Life.Moment`, `Life.trace`.
- **Step and run.** How a call ends (`After.Ends`, `Binding.perform_ends`, `Update.Move.perform_ends`), and how
  preparing does (`Origin.select_ensures`, `Origin.update_ensures`). What each call keeps (`After.Keeps`,
  `Select.Move.perform_keeps`, `Update.Move.perform_keeps`), all of them together keep, and then the ending
  settles the ledger (`traceFrom_settles`); so every life settles its ledger (`Life.releases_everything`).
-/

namespace NamedSql

open Ledger

variable {σ τ ε α β S M : Type} {D : Driver σ}

/-! ## Calls -/

namespace Life

/-- How a call on a statement ends: whether it failed, the statement unless the call has used it up, and the
    world. -/
structure After (S τ : Type) where
  failed : Bool
  rest   : Option S
  world  : τ

/-- A call that hands the statement on, and uses it up if it fails. -/
def chained (x : Attempt τ Error S) (w : τ) : After S τ :=
  match x.apply w with
  | (.ok s, w')    => ⟨false, some s, w'⟩
  | (.error _, w') => ⟨true, none, w'⟩

/-- A call that leaves the statement where it is, also when it fails. -/
def inPlace (x : Attempt (S × τ) Error Unit) (s : S) (w : τ) : After S τ :=
  match x.apply (s, w) with
  | (.ok (), s', w')   => ⟨false, some s', w'⟩
  | (.error _, s', w') => ⟨true, some s', w'⟩

/-- A call that ends the life of a statement: whether it failed, and the world after it. -/
def ended (x : Attempt τ ε α) (w : τ) : Bool × τ :=
  match x.apply w with
  | (.ok _, w')    => (false, w')
  | (.error _, w') => (true, w')

theorem ended_snd (x : Attempt τ ε α) (w : τ) : (ended x w).2 = (x.apply w).2 := by
  unfold ended
  match x.apply w with
  | (.ok a, w')    => rfl
  | (.error e, w') => rfl

/-- The calls that bind values, in a chain or in place. -/
inductive Binding where
  | chain (x : Setting)
  | bindValue (name : String) (value : Value)
  | bindIndex (slot : Nat) (value : Value)

/-- Makes a call that binds values. -/
def Binding.perform [HasCore D S] (b : Binding) (s : S) (w : σ) : After S σ :=
  match b with
  | .chain x          => chained (x.perform s) w
  | .bindValue name v => inPlace (HasCore.bindValue name v) s w
  | .bindIndex slot v => inPlace (HasCore.bindIndex slot v) s w

/-- Where the connection of a statement comes from. -/
inductive Origin (D : Driver σ) where
  | registry (r : Registry D) (name : Option String)
  | connection (k : D.Connection)

/-- The ledger before a statement is prepared: a connection that is given has been opened already. -/
def Origin.ledger : Origin D → Ledger
  | .registry _ _ => []
  | .connection _ => [.opened ⟨.connection, 0⟩ none]

/-- What can be known from outside when a call returns: whether it failed, and the ledger. -/
structure Moment where
  failed : Bool
  ledger : Ledger

end Life

open Life

/-- The calls on a query before it is run. -/
inductive Select.Move (α : Type) where
  | bind (b : Binding)
  | withDefault (x : α)

/-- The calls that end the life of a query. -/
inductive Select.Ending : Type → Type 1 where
  | execute {α : Type} : Select.Ending α
  | executeForAll {α : Type} : Select.Ending α
  | executeScalar {α : Type} : Select.Ending (Option α)
  | drop {α : Type} : Select.Ending α

/-- The calls on an update before it is run. -/
inductive Update.Move where
  | bind (b : Binding)
  | addBatch

/-- The calls that end the life of an update. -/
inductive Update.Ending where
  | execute | executeReturningKey | executeBatch | drop

def Select.Move.perform (m : Select.Move α) (s : Select D α) (w : σ) : After (Select D α) σ :=
  match m with
  | .bind b        => b.perform s w
  | .withDefault x => ⟨false, some (s.withDefault x), w⟩

def Select.Ending.perform {α : Type} : Select.Ending α → Select D α → σ → Bool × σ
  | .execute, s, w       => ended s.execute w
  | .executeForAll, s, w => ended s.executeForAll w
  | .executeScalar, s, w => ended s.executeScalar w
  | .drop, s, w          => (false, HasCore.discard s w)

def Update.Move.perform (m : Update.Move) (u : Update D) (w : σ) : After (Update D) σ :=
  match m with
  | .bind b   => b.perform u w
  | .addBatch => chained u.addBatch w

def Update.Ending.perform (e : Update.Ending) (u : Update D) (w : σ) : Bool × σ :=
  match e with
  | .execute             => ended u.execute w
  | .executeReturningKey => ended u.executeReturningKey w
  | .executeBatch        => ended u.executeBatch w
  | .drop                => (false, HasCore.discard u w)

/-! ## Lives -/

/-- The life of a statement: where it comes from, the calls on it, and how it ends. -/
inductive Life (D : Driver σ) : Type 1 where
  | select {α : Type} (origin : Origin D) (sql : String) (mapper : Mapper D α)
      (moves : List (Select.Move α)) (ending : Select.Ending α)
  | update (origin : Origin D) (sql : String) (moves : List Update.Move) (ending : Update.Ending)

namespace Life

/-- Prepares a query, with a ledger. -/
def Origin.select (o : Origin D) (sql : String) (mapper : Mapper D α) :
    Attempt (σ × Ledger) Error (Select D.audited α) :=
  match o with
  | .registry r name => Select.named r.audited name sql mapper.audited
  | .connection k    => Select.onConnection (D := D.audited) (0, k) sql mapper.audited

/-- Prepares an update, with a ledger. -/
def Origin.update (o : Origin D) (sql : String) : Attempt (σ × Ledger) Error (Update D.audited) :=
  match o with
  | .registry r name => Update.named r.audited name sql
  | .connection k    => Update.onConnection (D := D.audited) (0, k) sql

/-- The moments from a prepared statement on. A call that uses the statement up is the last one, and if there
    is none the ending is. -/
def traceFrom (perform : M → S → σ × Ledger → After S (σ × Ledger))
    (ending : S → σ × Ledger → Bool × (σ × Ledger)) : List M → S → σ × Ledger → List Moment
  | [], s, w =>
    let (failed, w') := ending s w
    [⟨failed, w'.2⟩]
  | m :: ms, s, w =>
    let after := perform m s w
    ⟨after.failed, after.world.2⟩ ::
      match after.rest with
      | some s' => traceFrom perform ending ms s' after.world
      | none    => []

/-- The moments of a life. If the statement cannot be prepared there is only one. -/
def trace : Life D → σ → List Moment
  | .select origin sql mapper moves ending, w =>
    match (origin.select sql mapper).apply (w, origin.ledger) with
    | (.error _, w') => [⟨true, w'.2⟩]
    | (.ok s, w')    => ⟨false, w'.2⟩ :: traceFrom Select.Move.perform ending.perform moves s w'
  | .update origin sql moves ending, w =>
    match (origin.update sql).apply (w, origin.ledger) with
    | (.error _, w') => [⟨true, w'.2⟩]
    | (.ok u, w')    => ⟨false, w'.2⟩ :: traceFrom Update.Move.perform ending.perform moves u w'

end Life

/-! ## Steps and lives -/

namespace Life

/-- After a call that keeps `P`, it holds of the statement if that is still there; and whenever the call failed
    or used the statement up, everything has been released. -/
def After.Keeps (P : S → σ × Ledger → Prop) (a : After S (σ × Ledger)) : Prop :=
  match a.rest with
  | some s' => P s' a.world ∧ (a.failed = true → Settled a.world.2)
  | none    => Settled a.world.2

theorem After.Keeps.mono {P Q : S → σ × Ledger → Prop} {a : After S (σ × Ledger)} (h : a.Keeps P)
    (hpq : ∀ s w, P s w → Q s w) : a.Keeps Q := by
  unfold After.Keeps at h ⊢
  match hrest : a.rest with
  | some s' =>
    rw [hrest] at h
    exact ⟨hpq s' a.world h.1, h.2⟩
  | none    => rwa [hrest] at h

/-- A statement that differs from another one in nothing but its core, which is sound. -/
def SoundLike [HasCore D.audited S] (s s' : S) (w : σ × Ledger) : Prop :=
  ∃ c, s' = HasCore.withCore s c ∧ Core.Sound (c, w)

/-- How a call on a statement ends, if `P` holds after one that succeeds and `E` after one that fails. A call in
    place leaves the statement where it is, one of a chain lets it go when it fails. -/
inductive After.Ends [HasCore D S] (P E : Core D × σ → Prop) (s : S) : After S σ → Prop where
  | kept (c : Core D) (w : σ) (h : P (c, w)) : Ends P E s ⟨false, some (HasCore.withCore s c), w⟩
  | failed (c : Core D) (w : σ) (h : E (c, w)) : Ends P E s ⟨true, some (HasCore.withCore s c), w⟩
  | usedUp (c : Core D) (w : σ) (h : E (c, w)) : Ends P E s ⟨true, none, c.handle.discard w⟩

section
variable [HasCore D S] {P E : Core D × σ → Prop} {x : Attempt (Core D × σ) Error Unit}
  (hx : Attempt.Ensures P x (fun _ => P) (fun _ => E)) {s : S} {w : σ} (h : P (HasCore.core s, w))
include hx h

theorem inPlace_ends : (inPlace (HasCore.onCore x) s w).Ends P E s := by
  have hend := hx _ h
  unfold inPlace HasCore.onCore
  rw [Attempt.of_apply]
  simp only
  match hr : x.apply (HasCore.core s, w) with
  | (.ok (), c, w')   =>
    rw [hr] at hend
    exact .kept c w' hend
  | (.error e, c, w') =>
    rw [hr] at hend
    exact .failed c w' hend

theorem chained_ends : (chained (HasCore.chain (HasCore.onCore x) s) w).Ends P E s := by
  have hend := hx _ h
  unfold chained HasCore.chain HasCore.onCore
  rw [Attempt.of_apply, Attempt.of_apply]
  simp only
  match hr : x.apply (HasCore.core s, w) with
  | (.ok (), c, w')   =>
    rw [hr] at hend
    exact .kept c w' hend
  | (.error e, c, w') =>
    rw [hr] at hend
    simp only [HasCore.core_withCore]
    exact .usedUp c w' hend

end

theorem Binding.perform_ends [HasCore D S] {P E : Core D × σ → Prop} (hcalls : Core.CallsKeep P E) (b : Binding)
    {s : S} {w : σ} (h : P (HasCore.core s, w)) : (b.perform s w).Ends P E s := by
  cases b with
  | chain x          =>
    cases x with
    | set name v     => exact chained_ends (hcalls.bind name v) h
    | setNull name t => exact chained_ends (hcalls.bind name (.null t)) h
    | setAt slot v   => exact chained_ends (hcalls.bindAt slot v) h
  | bindValue name v => exact inPlace_ends (hcalls.bind name v) h
  | bindIndex slot v => exact inPlace_ends (hcalls.bindAt slot v) h

/-- After a call that keeps a sound statement, or fails and releases everything, there is a sound statement, or
    everything has been released. -/
theorem After.Ends.keeps [HasCore D.audited S] {s : S} {a : After S (σ × Ledger)}
    (h : a.Ends Core.Sound Core.Gone s) : a.Keeps (SoundLike s) := by
  cases h with
  | kept c w hsound => exact ⟨⟨c, rfl, hsound⟩, fun hfailed => absurd hfailed Bool.false_ne_true⟩
  | failed c w hgone => exact ⟨⟨c, rfl, hgone.sound⟩, fun _ => hgone.settled⟩
  | usedUp c w hgone => exact (Handle.Gone.cleanup hgone).settled

/-- A trace is settled: after each failed call, and at its end. -/
structure Settles (ms : List Moment) : Prop where
  failed : ∀ m ∈ ms, m.failed = true → Settled m.ledger
  last   : ∃ m, ms.getLast? = some m ∧ Settled m.ledger

theorem Settles.cons {m : Moment} {ms : List Moment} (hm : m.failed = true → Settled m.ledger)
    (h : Settles ms) : Settles (m :: ms) := by
  obtain ⟨m', hlast, hsettled⟩ := h.last
  refine ⟨?_, m', ?_, hsettled⟩
  · intro n hn
    rcases List.mem_cons.mp hn with rfl | hn
    · exact hm
    · exact h.failed n hn
  · rw [List.getLast?_cons, hlast]
    rfl

theorem Settles.singleton {m : Moment} (hm : Settled m.ledger) : Settles [m] := by
  refine ⟨?_, m, rfl, hm⟩
  intro n hn _
  rwa [List.mem_singleton.mp hn]

/-- What each call keeps, the calls together keep, and then the ending settles the ledger. -/
theorem traceFrom_settles {P : S → σ × Ledger → Prop}
    {perform : M → S → σ × Ledger → After S (σ × Ledger)} {ending : S → σ × Ledger → Bool × (σ × Ledger)}
    (hstep : ∀ m s w, P s w → (perform m s w).Keeps P) (hend : ∀ s w, P s w → Settled (ending s w).2.2)
    (ms : List M) {s : S} {w : σ × Ledger} (h : P s w) : Settles (traceFrom perform ending ms s w) := by
  induction ms generalizing s w with
  | nil => exact .singleton (hend s w h)
  | cons m ms ih =>
    have hafter := hstep m s w h
    unfold After.Keeps at hafter
    unfold traceFrom
    simp only
    match hrest : (perform m s w).rest with
    | none    =>
      -- The call was the last one.
      rw [hrest] at hafter
      exact .singleton hafter
    | some s' =>
      rw [hrest] at hafter
      exact .cons hafter.2 (ih hafter.1)

/-- The part of a statement that has the handle, prepared with a ledger. -/
def Origin.core (o : Origin D) (sql : String) (keys : KeyCapture) : Attempt (σ × Ledger) Error (Core D.audited) :=
  match o with
  | .registry r name => Core.connect r.audited name sql keys
  | .connection k    => Core.prepare (D := D.audited) (0, k) sql keys

section
variable {P : Core D.audited × σ × Ledger → Prop} {E : σ × Ledger → Prop}
  (hprepare : ∀ k text keys, Attempt.Ensures
    (fun s : σ × Ledger => Handle.Bare (D := D) [] (Handle.ofConnection k, s)) (Core.prepare k text keys)
    (fun c s => P (c, s)) (fun _ => E))
  (hnone : ∀ w, E (w, [])) (o : Origin D) (sql : String)
include hprepare hnone

/-- Wherever the connection comes from, a statement is prepared on one that was just opened. -/
theorem Origin.core_ensures (keys : KeyCapture) :
    Attempt.Ensures (fun s : σ × Ledger => s.2 = o.ledger) (o.core sql keys) (fun c s => P (c, s))
      (fun _ => E) := by
  cases o with
  | registry r name => exact Core.connect_ensures hprepare hnone r name sql keys
  | connection k =>
    refine (hprepare _ sql keys).of_pre ?_
    rintro ⟨w, L⟩ (rfl : L = _)
    exact Handle.bare_ofConnection k w

theorem Origin.select_ensures (m : Mapper D α) :
    Attempt.Ensures (fun s : σ × Ledger => s.2 = o.ledger) (o.select sql m)
      (fun q s => P (q.core, s) ∧ ∀ n c, OnlyReads c.1 (q.mapper n c)) (fun _ => E) := by
  have hmapper : ∀ n c, OnlyReads c.1 (m.audited n c) := fun n c => reading_onlyReads c.1 .lent (m n c.2)
  have hcore := o.core_ensures hprepare hnone sql .none
  cases o with
  | registry r name =>
    exact Attempt.Ensures.bind hcore fun c => Attempt.Ensures.pure _ fun s hs => ⟨hs, hmapper⟩
  | connection k =>
    exact Attempt.Ensures.bind hcore fun c => Attempt.Ensures.pure _ fun s hs => ⟨hs, hmapper⟩

theorem Origin.update_ensures :
    Attempt.Ensures (fun s : σ × Ledger => s.2 = o.ledger) (o.update sql) (fun u s => P (u.core, s))
      (fun _ => E) := by
  have hcore := o.core_ensures hprepare hnone sql .generated
  cases o with
  | registry r name => exact Attempt.Ensures.bind hcore fun c => Attempt.Ensures.pure _ fun s hs => hs
  | connection k => exact Attempt.Ensures.bind hcore fun c => Attempt.Ensures.pure _ fun s hs => hs

end

theorem Origin.select_sound (o : Origin D) (sql : String) (m : Mapper D α) :
    Attempt.Ensures (fun s : σ × Ledger => s.2 = o.ledger) (o.select sql m)
      (fun q s => Core.Sound (q.core, s) ∧ ∀ n c, OnlyReads c.1 (q.mapper n c)) (fun _ s => Settled s.2) :=
  o.select_ensures Core.prepare_sound (fun _ => Settled.nil) sql m

theorem Origin.update_sound (o : Origin D) (sql : String) :
    Attempt.Ensures (fun s : σ × Ledger => s.2 = o.ledger) (o.update sql)
      (fun u s => Core.Sound (u.core, s)) (fun _ s => Settled s.2) :=
  o.update_ensures Core.prepare_sound (fun _ => Settled.nil) sql

end Life

/-- A sound query, whose mapper only reads from the cursor. -/
def Select.Sound (s : Select D.audited α) (w : σ × Ledger) : Prop :=
  Core.Sound (s.core, w) ∧ ∀ n c, OnlyReads c.1 (s.mapper n c)

theorem Select.Move.perform_keeps (m : Select.Move α) (s : Select D.audited α) (w : σ × Ledger)
    (h : s.Sound w) : (m.perform s w).Keeps Select.Sound := by
  cases m with
  | withDefault x => exact ⟨h, fun hfailed => absurd hfailed Bool.false_ne_true⟩
  | bind b =>
    refine (b.perform_ends (S := Select D.audited α) Core.callsKeep_sound h.1).keeps.mono ?_
    rintro s' w' ⟨c, rfl, hc⟩
    exact ⟨hc, h.2⟩

theorem Select.Ending.perform_settled : ∀ {α : Type} (e : Select.Ending α) (s : Select D.audited α)
    (w : σ × Ledger), s.Sound w → Settled (e.perform s w).2.2
  | _, .execute, s, w, h       => ended_snd s.execute w ▸ Select.execute_settled h.2 h.1
  | _, .executeForAll, s, w, h => ended_snd s.executeForAll w ▸ Select.executeForAll_settled h.2 h.1
  | _, .executeScalar, s, w, h => ended_snd s.executeScalar w ▸ Select.executeScalar_settled h.2 h.1
  | _, .drop, _, _, h          => (Handle.Sound.cleanup h.1).settled

theorem Update.Move.perform_ends {P E : Core D × σ → Prop} (hcalls : Core.CallsKeep P E) (m : Update.Move)
    {u : Update D} {w : σ} (h : P (u.core, w)) : (m.perform u w).Ends P E u := by
  cases m with
  | bind b   => exact b.perform_ends (S := Update D) hcalls h
  | addBatch => exact chained_ends (S := Update D) hcalls.addBatch h

theorem Update.Move.perform_keeps (m : Update.Move) (u : Update D.audited) (w : σ × Ledger)
    (h : Core.Sound (u.core, w)) : (m.perform u w).Keeps fun u' w' => Core.Sound (u'.core, w') := by
  -- Nothing of an update but its core can change.
  refine (m.perform_ends Core.callsKeep_sound h).keeps.mono ?_
  rintro u' w' ⟨c, rfl, hc⟩
  exact hc

theorem Update.Ending.perform_settled (e : Update.Ending) (u : Update D.audited) (w : σ × Ledger)
    (h : Core.Sound (u.core, w)) : Settled (e.perform u w).2.2 := by
  cases e with
  | execute             => exact ended_snd u.execute w ▸ Update.execute_settled h
  | executeReturningKey => exact ended_snd u.executeReturningKey w ▸ Update.executeReturningKey_settled h
  | executeBatch        => exact ended_snd u.executeBatch w ▸ Update.executeBatch_settled h
  | drop                => exact (Handle.Sound.cleanup h).settled

namespace Life

theorem trace_settles (life : Life D) (w : σ) : Settles (life.trace w) := by
  cases life with
  | select origin sql mapper moves ending =>
    have hbegin := origin.select_sound sql mapper (w, origin.ledger) rfl
    unfold trace
    simp only
    match hs : (origin.select sql mapper).apply (w, origin.ledger) with
    | (.error e, w') =>
      rw [hs] at hbegin
      exact .singleton hbegin
    | (.ok s, w')    =>
      rw [hs] at hbegin
      exact .cons (fun hfailed => absurd hfailed Bool.false_ne_true)
        (traceFrom_settles Select.Move.perform_keeps ending.perform_settled moves hbegin)
  | update origin sql moves ending =>
    have hbegin := origin.update_sound sql (w, origin.ledger) rfl
    unfold trace
    simp only
    match hu : (origin.update sql).apply (w, origin.ledger) with
    | (.error e, w') =>
      rw [hu] at hbegin
      exact .singleton hbegin
    | (.ok u, w')    =>
      rw [hu] at hbegin
      exact .cons (fun hfailed => absurd hfailed Bool.false_ne_true)
        (traceFrom_settles Update.Move.perform_keeps ending.perform_settled moves hbegin)

/-- Where the connection of a life comes from. -/
def origin : Life D → Origin D
  | .select origin _ _ _ _ => origin
  | .update origin _ _ _   => origin

/-- A life that ends before it has a connection. -/
theorem trace_of_no_connection (life : Life D) {r : Registry D} {name : Option String}
    (horigin : life.origin = .registry r name) {w w' : σ} {e : Error}
    (hconnect : (r.connect name).apply w = (.error e, w')) : life.trace w = [⟨true, []⟩] := by
  have hconnect' : (r.audited.connect name).apply (w, []) = (.error e, w', []) := by
    rw [Registry.audited_connect_apply, hconnect]
  cases life with
  | select o sql mapper moves ending =>
    obtain rfl : o = .registry r name := horigin
    have hselect : (Origin.select (.registry r name) sql mapper).apply (w, []) = (.error e, w', []) := by
      simp only [Origin.select, Select.named, Core.connect, Attempt.bind_apply, hconnect']
    show (match (Origin.select (.registry r name) sql mapper).apply (w, []) with
      | (.error _, s) => _
      | (.ok _, s)    => _) = _
    rw [hselect]
  | update o sql moves ending =>
    obtain rfl : o = .registry r name := horigin
    have hupdate : (Origin.update (.registry r name) sql).apply (w, []) = (.error e, w', []) := by
      simp only [Origin.update, Update.named, Core.connect, Attempt.bind_apply, hconnect']
    show (match (Origin.update (.registry r name) sql).apply (w, []) with
      | (.error _, s) => _
      | (.ok _, s)    => _) = _
    rw [hupdate]

/-- **Nothing is left open, and nothing is closed twice.** In every life of a query or an update, whatever is
    bound to it, however it is run and whichever calls fail: when a call has failed, and also when the
    statement is gone, every connection, prepared statement and cursor that was handed out has been closed
    exactly once, in the order cursor, statement, connection. If there is no connection in the first place,
    nothing is closed. -/
theorem releases_everything (life : Life D) (w : σ) :
    (∀ m ∈ life.trace w, m.failed = true → Settled m.ledger)
      ∧ (∃ m, (life.trace w).getLast? = some m ∧ Settled m.ledger)
      ∧ ∀ r name, life.origin = .registry r name → ∀ e w', (r.connect name).apply w = (.error e, w') →
          life.trace w = [⟨true, []⟩] := by
  have hsettles := trace_settles life w
  refine ⟨hsettles.failed, hsettles.last, ?_⟩
  intro r name horigin e w' hconnect
  exact trace_of_no_connection life horigin hconnect

end Life

end NamedSql
