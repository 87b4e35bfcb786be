import NamedSql.Proofs.Handle.Steps
import NamedSql.Proofs.Ledger.Audit

/-!
# `Proofs.Ledger.Handle` — what a handle does to the objects it owns

A handle is run over a driver that keeps a ledger. `Accounts K` says how handle and ledger agree: the ledger
was kept, the handle owns exactly the objects that are open after it, and `K` are those closed so far. Each
operation of a handle keeps this agreement, and its lemma tells what becomes of `K`.

## Contents
- `Handle.objects`; `Handle.Accounts`, and `Idle`, `Ready`, `Bare` for what the handle owns besides.
- **Closing.** `closeCursor_accounts`, `closeStatement_accounts`; `cleanup_apply` says to the entry what a
  cleanup writes.
- **Working.** `prepareNext_accounts`, `onStatement_accounts`, `call_ready`, `withCursor_idle`: these close
  nothing.
- **Replacing.** `withCursor_accounts`, `prepare_accounts`: what was open before is closed first. And
  `cleanup_kept`: nothing is open after a cleanup.
-/

namespace NamedSql

open Ledger

variable {σ ε α : Type} {D : Driver σ}

namespace Handle

/-! ## What a handle owns -/

/-- The cursor a handle owns, as an object of the ledger. -/
def cursorObject (h : Handle D.audited) : List Object := (h.cursor.map fun c => ⟨.cursor, c.1⟩).toList

/-- The statement a handle owns, as an object of the ledger. -/
def statementObject (h : Handle D.audited) : List Object :=
  (h.statement.map fun s => ⟨.statement, s.1⟩).toList

/-- The connection a handle owns, as an object of the ledger. -/
def connectionObject (h : Handle D.audited) : List Object :=
  (h.connection.map fun c => ⟨.connection, c.1⟩).toList

/-- All that a handle owns, in the order of closing. -/
def objects (h : Handle D.audited) : List Object := h.cursorObject ++ h.statementObject ++ h.connectionObject

/-- A handle and a ledger that agree: what the handle owns is what is open. `K` is what has been closed. -/
structure Accounts (K : List Object) (s : Handle D.audited × σ × Ledger) : Prop where
  kept   : Kept s.2.2 s.1.objects
  closed : closes s.2.2 = K

/-- They agree, and no cursor is open. -/
structure Idle (K : List Object) (s : Handle D.audited × σ × Ledger) : Prop extends Accounts K s where
  cursor : s.1.cursor = none

/-- They agree, no cursor is open, and a statement is. -/
structure Ready (K : List Object) (s : Handle D.audited × σ × Ledger) : Prop extends Idle K s where
  statement : s.1.statement ≠ none

/-- They agree, and nothing is open but the connection. -/
structure Bare (K : List Object) (s : Handle D.audited × σ × Ledger) : Prop extends Idle K s where
  statement : s.1.statement = none

/-- A handle on a connection that was just opened. -/
theorem bare_ofConnection (k : D.Connection) (w : σ) :
    Bare [] (ofConnection (D := D.audited) (0, k), w, [.opened ⟨.connection, 0⟩ none]) :=
  ⟨⟨⟨.connected, rfl⟩, rfl⟩, rfl⟩

/-- Calls on something open are entered, and the agreement stays. -/
theorem Accounts.callAll {K : List Object} {s s' : Handle D.audited × σ × Ledger} (h : Accounts K s)
    {o : Object} (ho : o ∈ s.1.objects) {cs : List Call} (howned : s'.1.objects = s.1.objects)
    (hledger : s'.2.2 = s.2.2 ++ cs.map (.called o)) : Accounts K s' where
  kept   := by
    rw [hledger, howned]
    exact h.kept.callAll ho cs
  closed := by rw [hledger, closes_append, closes_map_called, List.append_nil, h.closed]

/-! ## Closing -/

/-- What the close of the cursor writes: nothing if there is none. -/
theorem closeCursor_apply (h : Handle D.audited) (w : σ) (L : Ledger) :
    ∃ w', (closeCursor.apply (h, w, L)).2
      = (⟨h.connection, h.statement, none⟩, w', L ++ h.cursorObject.map .closed) := by
  obtain ⟨k, s, c⟩ := h
  cases c with
  | none   => exact ⟨w, by simp [closeCursor, cursorObject]⟩
  | some c => exact ⟨(D.closeCursor.apply (c.2, w)).2.2, rfl⟩

theorem closeStatement_apply (h : Handle D.audited) (w : σ) (L : Ledger) :
    ∃ w', (closeStatement.apply (h, w, L)).2
      = (⟨h.connection, none, h.cursor⟩, w', L ++ h.statementObject.map .closed) := by
  obtain ⟨k, s, c⟩ := h
  cases s with
  | none   => exact ⟨w, by simp [closeStatement, statementObject]⟩
  | some s => exact ⟨(D.closeStatement.apply (s.2, w)).2.2, rfl⟩

theorem closeConnection_apply (h : Handle D.audited) (w : σ) (L : Ledger) :
    ∃ w', (closeConnection.apply (h, w, L)).2
      = (⟨none, h.statement, h.cursor⟩, w', L ++ h.connectionObject.map .closed) := by
  obtain ⟨k, s, c⟩ := h
  cases k with
  | none   => exact ⟨w, by simp [closeConnection, connectionObject]⟩
  | some k => exact ⟨(D.closeConnection.apply (k.2, w)).2.2, rfl⟩

/-- **What a cleanup writes.** It closes all that the handle owns, each once and in order, whatever fails,
    and the handle owns nothing any more. -/
theorem cleanup_apply (h : Handle D.audited) (w : σ) (L : Ledger) :
    ∃ w', (cleanup.apply (h, w, L)).2 = (⟨none, none, none⟩, w', L ++ h.objects.map .closed) := by
  obtain ⟨w₁, h₁⟩ := closeCursor_apply h w L
  obtain ⟨w₂, h₂⟩ := closeStatement_apply ⟨h.connection, h.statement, none⟩ w₁ (L ++ h.cursorObject.map .closed)
  obtain ⟨w₃, h₃⟩ := closeConnection_apply ⟨h.connection, none, none⟩ w₂
    (L ++ h.cursorObject.map .closed ++ h.statementObject.map .closed)
  refine ⟨w₃, ?_⟩
  show (closeConnection.apply (closeStatement.apply (closeCursor.apply (h, w, L)).2).2).2 = _
  rw [h₁, h₂]
  refine h₃.trans ?_
  rw [objects, List.map_append, List.map_append, List.append_assoc, List.append_assoc, List.append_assoc]
  rfl

theorem closeCursor_accounts :
    Attempt.Ensures (fun s : Handle D.audited × σ × Ledger => ∃ K, Accounts K s) closeCursor
      (fun _ s => ∃ K, Idle K s) (fun _ s => ∃ K, Idle K s) := by
  refine Attempt.Ensures.always ?_
  rintro ⟨h, w, L⟩ ⟨K, hacc⟩
  obtain ⟨w', hend⟩ := closeCursor_apply h w L
  have hkept : Kept L (h.cursorObject ++ (h.statementObject ++ h.connectionObject)) := by
    rw [← List.append_assoc]
    exact hacc.kept
  rw [hend]
  exact ⟨_, ⟨hkept.closeAll, rfl⟩, rfl⟩

theorem closeStatement_accounts :
    Attempt.Ensures (fun s : Handle D.audited × σ × Ledger => ∃ K, Idle K s) closeStatement
      (fun _ s => ∃ K, Bare K s) (fun _ s => ∃ K, Bare K s) := by
  refine Attempt.Ensures.always ?_
  rintro ⟨⟨k, st, cur⟩, w, L⟩ ⟨K, hidle⟩
  obtain rfl : cur = none := hidle.cursor
  obtain ⟨w', hend⟩ := closeStatement_apply ⟨k, st, none⟩ w L
  rw [hend]
  exact ⟨_, ⟨⟨hidle.kept.closeAll, rfl⟩, rfl⟩, rfl⟩

/-! ## Working -/

variable {K : List Object}

/-- A new statement stands on the connection. -/
theorem prepareNext_accounts (sql : String) (keys : KeyCapture) :
    Attempt.Ensures (Bare (D := D) (σ := σ) K) (prepareNext sql keys) (fun _ s => Ready K s)
      (fun _ s => Idle K s) := by
  rintro ⟨⟨k, st, cur⟩, w, L⟩ hbare
  obtain rfl : st = none := hbare.statement
  obtain rfl : cur = none := hbare.cursor
  cases k with
  | none   => exact hbare.toIdle
  | some k =>
    obtain ⟨n, k⟩ := k
    have hkept : Kept L [⟨.connection, n⟩] := hbare.kept
    have hcalled : Kept (L ++ [.called ⟨.connection, n⟩ .prepare]) [⟨.connection, n⟩] :=
      .called .prepare hkept (List.mem_cons_self ..)
    have hclosed : closes L = K := hbare.closed
    rcases handingOut_apply .connection .prepare .statement (D.prepare sql keys) n k w L with
      ⟨st, k', w', hp⟩ | ⟨f, k', w', hp⟩
    · rw [prepareNext_of_ok hp]
      exact ⟨⟨⟨.opened .statement hcalled rfl, by simpa using hclosed⟩, rfl⟩, Option.some_ne_none _⟩
    · rw [prepareNext_of_error hp]
      exact ⟨⟨hcalled, by simpa using hclosed⟩, rfl⟩

/-- Calls on the statement change nothing that is owned. -/
theorem onStatement_apply {x : Attempt (D.audited.Statement × σ × Ledger) Failure α}
    (hx : OnlyCalls .statement x) (s : Handle D.audited × σ × Ledger) :
    s.1.statement = none ∧ (onStatement x).apply s = (.error .statementClosed, s) ∨
    ∃ r s' o, ∃ cs : List Call, (onStatement x).apply s = (.ok r, s') ∧ s'.1.statement ≠ none
      ∧ s'.1.cursor = s.1.cursor ∧ o ∈ s.1.objects ∧ s'.1.objects = s.1.objects
      ∧ s'.2.2 = s.2.2 ++ cs.map (.called o) := by
  obtain ⟨⟨k, st, cur⟩, w, L⟩ := s
  cases st with
  | none    => exact .inl ⟨rfl, rfl⟩
  | some st =>
    obtain ⟨n, st⟩ := st
    obtain ⟨st', w', cs, hend⟩ := hx n st w L
    have hresult : (onStatement x).apply (⟨k, some (n, st), cur⟩, w, L)
        = (.ok (x.apply ((n, st), w, L)).1, ⟨k, some (n, st'), cur⟩, w',
            L ++ cs.map (.called ⟨.statement, n⟩)) := by
      rw [onStatement_some, hend]
    have howns : ⟨.statement, n⟩ ∈ objects (D := D) ⟨k, some (n, st), cur⟩ := by
      simp [objects, statementObject]
    exact .inr ⟨_, _, ⟨.statement, n⟩, cs, hresult, Option.some_ne_none _, rfl, howns, rfl, rfl⟩

section
variable {x : Attempt (D.audited.Statement × σ × Ledger) Failure α} (hx : OnlyCalls .statement x)
include hx

theorem onStatement_accounts :
    Attempt.Ensures (Accounts K) (onStatement x) (fun _ s => Accounts K s) (fun _ s => Accounts K s) := by
  intro s hacc
  rcases onStatement_apply hx s with ⟨-, hend⟩ | ⟨r, s', o, cs, hend, -, -, ho, howned, hledger⟩
  · rw [hend]
    exact hacc
  · rw [hend]
    exact hacc.callAll ho howned hledger

theorem onStatement_ready :
    Attempt.Ensures (Ready K) (onStatement x) (fun _ s => Ready K s) (fun _ _ => False) := by
  intro s hready
  rcases onStatement_apply hx s with ⟨hnone, -⟩ | ⟨r, s', o, cs, hend, hsome, hcursor, ho, howned, hledger⟩
  · exact absurd hnone hready.statement
  · rw [hend]
    exact ⟨⟨hready.callAll ho howned hledger, hcursor.trans hready.cursor⟩, hsome⟩

end

/-- What holds after a call on the statement, by how it went, holds after the operation it is a part of. -/
theorem call_ensures {x : Attempt (D.Statement × σ) Failure α} {P E : Handle D × σ → Prop}
    {Q : α → Handle D × σ → Prop}
    (h : Attempt.Ensures P (onStatement x) (fun r s => match r with | .ok a => Q a s | .error _ => E s)
      (fun _ s => E s)) :
    Attempt.Ensures P (call x) Q (fun _ s => E s) := by
  refine Attempt.Ensures.bind (h.reword fun _ _ he => he) ?_
  intro r
  cases r with
  | ok a    => exact Attempt.Ensures.pure a fun _ hq => hq
  | error f => exact Attempt.Ensures.throw f fun _ he => he

theorem call_ready {x : Attempt (D.audited.Statement × σ × Ledger) Failure α} (hx : OnlyCalls .statement x) :
    Attempt.Ensures (Ready K) (call x) (fun _ s => Ready K s) (fun _ s => Ready K s) := by
  refine call_ensures ((onStatement_ready hx).mono ?_ fun _ _ hfalse => hfalse.elim)
  intro r s hs
  cases r with
  | ok a    => exact hs
  | error f => exact hs

/-- A cursor that was handed out and that nobody owns yet. -/
structure Opened (K : List Object) (c : D.audited.Cursor) (s : Handle D.audited × σ × Ledger) : Prop where
  kept   : Kept s.2.2 (⟨.cursor, c.1⟩ :: s.1.objects)
  closed : closes s.2.2 = K
  cursor : s.1.cursor = none

/-- A new cursor stands on the statement. -/
theorem opening_accounts (c : Call) (x : Attempt (D.Statement × σ) Failure D.Cursor) :
    Attempt.Ensures (Idle (D := D) K) (call (handingOut .statement c .cursor x)) (fun k s => Opened K k s)
      (fun _ s => Idle K s) := by
  refine call_ensures ?_
  rintro ⟨⟨k, st, cur⟩, w, L⟩ hidle
  obtain rfl : cur = none := hidle.cursor
  cases st with
  | none    => exact hidle
  | some st =>
    obtain ⟨n, st⟩ := st
    have hkept : Kept L (⟨.statement, n⟩ :: connectionObject ⟨k, some (n, st), none⟩) := hidle.kept
    have hcalled : Kept (L ++ [.called ⟨.statement, n⟩ c])
        (⟨.statement, n⟩ :: connectionObject ⟨k, some (n, st), none⟩) := .called c hkept (List.mem_cons_self ..)
    have hclosed : closes L = K := hidle.closed
    rw [onStatement_some]
    rcases handingOut_apply .statement c .cursor x n st w L with ⟨cur, st', w', hx⟩ | ⟨f, st', w', hx⟩
    · rw [hx]
      have hfooting : (⟨.statement, n⟩ :: connectionObject ⟨k, some (n, st), none⟩).map Object.resource
          = footing .cursor := congrArg _ hkept.beneath
      exact ⟨.opened .cursor hcalled hfooting, by simpa using hclosed, rfl⟩
    · rw [hx]
      exact ⟨⟨hcalled, by simpa using hclosed⟩, rfl⟩

/-- The handle owns the cursor it works with. -/
theorem keepCursor_accounts {work : Attempt (D.audited.Cursor × σ × Ledger) ε α}
    (hwork : OnlyCalls .cursor work) (c : D.audited.Cursor) :
    Attempt.Ensures (Opened K c) (keepCursor work c) (fun _ s => Accounts K s) (fun _ s => Accounts K s) := by
  refine Attempt.Ensures.always ?_
  rintro ⟨⟨k, st, cur⟩, w, L⟩ hopened
  obtain rfl : cur = none := hopened.cursor
  obtain ⟨n, c⟩ := c
  obtain ⟨c', w', cs, hend⟩ := hwork n c w L
  show Accounts K (⟨k, st, some (work.apply ((n, c), w, L)).2.1⟩, (work.apply ((n, c), w, L)).2.2)
  rw [hend]
  -- It is owned from the time it was opened; the calls come after that.
  have hacc : Accounts K (⟨k, st, some (n, c')⟩, w, L) := ⟨hopened.kept, hopened.closed⟩
  exact hacc.callAll (List.mem_cons_self ..) rfl rfl

section
variable {wrap : Failure → ε} (c : Call) (x : Attempt (D.Statement × σ) Failure D.Cursor)
  {work : Attempt (D.audited.Cursor × σ × Ledger) ε α} (hwork : OnlyCalls .cursor work)
include hwork

theorem openCursor_accounts :
    Attempt.Ensures (Idle K) (openCursor wrap (handingOut .statement c .cursor x) work)
      (fun _ s => Accounts K s) (fun _ s => Accounts K s) := by
  refine Attempt.Ensures.bind ((opening_accounts c x).reword ?_) (keepCursor_accounts hwork)
  intro f s hidle
  exact hidle.toAccounts

/-- Opening a cursor where there is none closes nothing. -/
theorem withCursor_idle :
    Attempt.Ensures (Idle K) (withCursor wrap (handingOut .statement c .cursor x) work)
      (fun _ s => Accounts K s) (fun _ s => Accounts K s) := by
  rintro ⟨h, w⟩ hidle
  rw [withCursor_of_none _ _ _ hidle.cursor]
  exact openCursor_accounts c x hwork (h, w) hidle

/-- A cursor that is open is closed before the next one is opened. -/
theorem withCursor_accounts :
    Attempt.Ensures (fun s : Handle D.audited × σ × Ledger => ∃ K, Accounts K s)
      (withCursor wrap (handingOut .statement c .cursor x) work)
      (fun _ s => ∃ K, Accounts K s) (fun _ s => ∃ K, Accounts K s) := by
  refine Attempt.Ensures.bind (closeCursor_accounts.reword fun _ _ ⟨K, h⟩ => ⟨K, h.toAccounts⟩) ?_
  rintro - s ⟨K, hidle⟩
  exact ((openCursor_accounts c x hwork).mono (fun _ _ h => ⟨K, h⟩) fun _ _ h => ⟨K, h⟩) s hidle

end

/-- The statement of before is closed before the next one is prepared. -/
theorem prepare_accounts (sql : String) (keys : KeyCapture) :
    Attempt.Ensures (fun s : Handle D.audited × σ × Ledger => ∃ K, Accounts K s) (prepare sql keys)
      (fun _ s => ∃ K, Accounts K s) (fun _ s => ∃ K, Accounts K s) := by
  refine Attempt.Ensures.bind
    (closeCursor_accounts.mono (fun _ _ h => h) fun _ _ ⟨K, h⟩ => ⟨K, h.toAccounts⟩) ?_
  rintro -
  refine Attempt.Ensures.bind
    (closeStatement_accounts.mono (fun _ _ h => h) fun _ _ ⟨K, h⟩ => ⟨K, h.toAccounts⟩) ?_
  rintro - s ⟨K, hbare⟩
  exact ((prepareNext_accounts sql keys).mono (fun _ _ h => ⟨K, h.toAccounts⟩)
    fun _ _ h => ⟨K, h.toAccounts⟩) s hbare

/-- A cleanup leaves nothing open. -/
theorem cleanup_kept {s : Handle D.audited × σ × Ledger} (h : Accounts K s) :
    Bare (K ++ s.1.objects) (cleanup.apply s).2 ∧ Kept (cleanup.apply s).2.2.2 [] := by
  obtain ⟨h', w, L⟩ := s
  obtain ⟨w', hend⟩ := cleanup_apply h' w L
  have hkept : Kept L (h'.objects ++ []) := (List.append_nil h'.objects).symm ▸ h.kept
  rw [hend]
  refine ⟨⟨⟨⟨hkept.closeAll, ?_⟩, rfl⟩, rfl⟩, hkept.closeAll⟩
  rw [closes_append, closes_map_closed]
  exact congrArg (· ++ _) h.closed

end Handle

end NamedSql
