import NamedSql.Proofs.Driver.Reading
import NamedSql.Proofs.Ledger.Basic
import NamedSql.Handle
import NamedSql.Registry
import NamedSql.Statement.Mapper

/-!
# `Proofs.Ledger.Audit` — a driver that keeps a ledger

Any driver can be made to keep a ledger of what it hands out, of the calls on it and of what is closed. Its
objects get numbers for this purpose, and the ledger becomes a part of the world; nothing else changes, each
call answers what the driver of before answers.

## Contents
- `calling`, `closing`, `handingOut`, `reading`: the kinds of call, entered in the ledger.
- `Driver.audited`, `Connector.audited`, `Registry.audited`, `Mapper.audited`.
- `OnlyCalls`, `OnlyReads`: steps that do nothing to an object but make calls on it; the moves and readings of
  a cursor, and a whole pass over its rows, are of this sort.
-/

namespace NamedSql

open Ledger

variable {σ ε ε' α β ο π : Type}

namespace Ledger

/-- An object of a driver with its number. -/
abbrev Numbered (ο : Type) := Nat × ο

/-! ## Calls -/

/-- A call on an object, entered in the ledger whether or not it succeeds. -/
def calling (r : Resource) (c : Call) (x : Attempt (ο × σ) ε α) :
    Attempt (Numbered ο × σ × Ledger) ε α :=
  .of fun ((n, o), w, L) =>
    let (a, o', w') := x.apply (o, w)
    (a, (n, o'), w', L ++ [.called ⟨r, n⟩ c])

/-- A call that closes an object, entered in the ledger whether or not it succeeds. -/
def closing (r : Resource) (x : Attempt (ο × σ) ε α) : Attempt (Numbered ο × σ × Ledger) ε α :=
  .of fun ((n, o), w, L) =>
    let (a, o', w') := x.apply (o, w)
    (a, (n, o'), w', L ++ [.closed ⟨r, n⟩])

/-- A call on an object that hands out another one if it succeeds. The number of the new object is the place
    of its entry in the ledger. -/
def handingOut (r : Resource) (c : Call) (r' : Resource) (x : Attempt (ο × σ) ε π) :
    Attempt (Numbered ο × σ × Ledger) ε (Numbered π) :=
  .of fun ((n, o), w, L) =>
    let L' := L ++ [.called ⟨r, n⟩ c]
    match x.apply (o, w) with
    | (.ok p, o', w')    => (.ok (L'.length, p), (n, o'), w', L' ++ [.opened ⟨r', L'.length⟩ (some ⟨r, n⟩)])
    | (.error e, o', w') => (.error e, (n, o'), w', L')

/-- How a call ends that may hand out an object. -/
theorem handingOut_apply (r : Resource) (c : Call) (r' : Resource) (x : Attempt (ο × σ) ε π) (n : Nat) (o : ο)
    (w : σ) (L : Ledger) :
    (∃ p o' w', (handingOut r c r' x).apply ((n, o), w, L)
      = (.ok ((L ++ [Entry.called ⟨r, n⟩ c]).length, p), (n, o'), w', L ++ [Entry.called ⟨r, n⟩ c]
          ++ [.opened ⟨r', (L ++ [Entry.called ⟨r, n⟩ c]).length⟩ (some ⟨r, n⟩)])) ∨
    (∃ e o' w', (handingOut r c r' x).apply ((n, o), w, L)
      = (.error e, (n, o'), w', L ++ [.called ⟨r, n⟩ c])) := by
  simp only [handingOut, Attempt.of_apply]
  match x.apply (o, w) with
  | (.ok p, o', w')    => exact .inl ⟨p, o', w', rfl⟩
  | (.error e, o', w') => exact .inr ⟨e, o', w', rfl⟩

/-- A reading of the current row of a cursor, entered in the ledger. -/
def reading (n : Nat) (c : Call) (x : Attempt σ ε α) : Attempt (σ × Ledger) ε α :=
  .of fun (w, L) =>
    let (a, w') := x.apply w
    (a, w', L ++ [.called ⟨.cursor, n⟩ c])

end Ledger

/-! ## Drivers -/

/-- The same driver, with a ledger. -/
abbrev Driver.audited (D : Driver σ) : Driver (σ × Ledger) where
  Connection      := Numbered D.Connection
  Statement       := Numbered D.Statement
  Cursor          := Numbered D.Cursor
  prepare sql k   := handingOut .connection .prepare .statement (D.prepare sql k)
  closeConnection := closing .connection D.closeConnection
  discard c s     := (D.discard c.2 s.1, s.2)
  bind slot v     := calling .statement .bind (D.bind slot v)
  addBatch        := calling .statement .addBatch D.addBatch
  setMaxRows n    := calling .statement .setMaxRows (D.setMaxRows n)
  executeQuery    := handingOut .statement .executeQuery .cursor D.executeQuery
  executeUpdate   := calling .statement .executeUpdate D.executeUpdate
  executeBatch    := calling .statement .executeBatch D.executeBatch
  generatedKeys   := handingOut .statement .generatedKeys .cursor D.generatedKeys
  closeStatement  := closing .statement D.closeStatement
  next            := calling .cursor .next D.next
  columnCount c   := D.columnCount c.2
  columnLabel c   := D.columnLabel c.2
  get c n         := reading c.1 .get (D.get c.2 n)
  closeCursor     := closing .cursor D.closeCursor
  rowsLeft c      := D.rowsLeft c.2
  rowsLeft_next {c c' s s'} h := by
    obtain ⟨n, c⟩ := c
    obtain ⟨w, L⟩ := s
    simp only [calling, Attempt.of_apply, Prod.mk.injEq] at h
    obtain ⟨ha, hc, -⟩ := h
    rw [← hc]
    exact D.rowsLeft_next (Prod.ext ha rfl)

/-- The same connector, whose connections are entered in the ledger. -/
def Connector.audited {D : Driver σ} (c : Connector D) : Connector D.audited where
  name    := c.name
  connect := .of fun (w, L) =>
    match c.connect.apply w with
    | (.ok k, w')    => (.ok (L.length, k), w', L ++ [.opened ⟨.connection, L.length⟩ none])
    | (.error e, w') => (.error e, w', L)

/-- The same registry, over the connectors with a ledger. -/
def Registry.audited {D : Driver σ} (r : Registry D) : Registry D.audited :=
  ⟨r.connectors.map Connector.audited⟩

theorem Registry.audited_lookup {D : Driver σ} (r : Registry D) (name : Option String) :
    r.audited.lookup name = (r.lookup name).map Connector.audited := by
  have hfind : (r.connectors.map Connector.audited).find? (fun c => name.all (c.name == ·))
      = (r.connectors.find? fun c => name.all (c.name == ·)).map Connector.audited := List.find?_map ..
  unfold Registry.lookup Registry.audited
  rw [hfind]
  cases r.connectors.find? fun c => name.all (c.name == ·) with
  | some c => rfl
  | none   => rfl

/-- A connection from the registry is entered in the ledger, if there is one. -/
theorem Registry.audited_connect_apply {D : Driver σ} (r : Registry D) (name : Option String) (w : σ)
    (L : Ledger) :
    (r.audited.connect name).apply (w, L) =
      match (r.connect name).apply w with
      | (.ok k, w')    => (.ok (L.length, k), w', L ++ [.opened ⟨.connection, L.length⟩ none])
      | (.error e, w') => (.error e, w', L) := by
  unfold Registry.connect
  rw [Registry.audited_lookup]
  match r.lookup name with
  | .error e => rfl
  | .ok c    =>
    show (c.audited.connect.reword Error.connect).apply (w, L)
      = match (c.connect.reword Error.connect).apply w with
      | (.ok k, w')    => _
      | (.error e, w') => _
    rw [Attempt.reword_apply, Attempt.reword_apply]
    simp only [Connector.audited, Attempt.of_apply]
    match c.connect.apply w with
    | (.ok k, w')    => rfl
    | (.error e, w') => rfl

/-- The same mapper. What it reads from the cursor is its own affair; the ledger tells that it was lent the
    cursor. -/
def Mapper.audited {D : Driver σ} (m : Mapper D α) : Mapper D.audited α :=
  fun k c => reading c.1 .lent (m k c.2)

/-! ## Steps that only make calls -/

namespace Ledger

/-- Whatever a step does to an object, the ledger gets nothing but calls on it. -/
def OnlyCalls (r : Resource) (x : Attempt (Numbered ο × σ × Ledger) ε α) : Prop :=
  ∀ n o w L, ∃ o' w', ∃ cs : List Call,
    (x.apply ((n, o), w, L)).2 = ((n, o'), w', L ++ cs.map (.called ⟨r, n⟩))

/-- Whatever a step reads from a cursor, the ledger gets nothing but calls on it. -/
def OnlyReads (n : Nat) (x : Attempt (σ × Ledger) ε α) : Prop :=
  ∀ w L, ∃ w', ∃ cs : List Call, (x.apply (w, L)).2 = (w', L ++ cs.map (.called ⟨.cursor, n⟩))

theorem calling_onlyCalls (r : Resource) (c : Call) (x : Attempt (ο × σ) ε α) :
    OnlyCalls r (calling r c x) := by
  intro n o w L
  exact ⟨_, _, [c], rfl⟩

theorem reading_onlyReads (n : Nat) (c : Call) (x : Attempt σ ε α) : OnlyReads n (reading n c x) := by
  intro w L
  exact ⟨_, [c], rfl⟩

namespace OnlyCalls

variable {r : Resource}

theorem pure (a : α) : OnlyCalls r (Pure.pure a : Attempt (Numbered ο × σ × Ledger) ε α) := by
  intro n o w L
  exact ⟨o, w, [], by simp⟩

theorem bind {x : Attempt (Numbered ο × σ × Ledger) ε α} {f : α → Attempt (Numbered ο × σ × Ledger) ε β}
    (hx : OnlyCalls r x) (hf : ∀ a, OnlyCalls r (f a)) : OnlyCalls r (x >>= f) := by
  intro n o w L
  obtain ⟨o₁, w₁, cs₁, h₁⟩ := hx n o w L
  rw [Attempt.bind_apply]
  match hxs : x.apply ((n, o), w, L) with
  | (.ok a, s) =>
    obtain rfl : ((n, o₁), w₁, L ++ cs₁.map (.called ⟨r, n⟩)) = s := by rw [← h₁, hxs]
    obtain ⟨o₂, w₂, cs₂, h₂⟩ := hf a n o₁ w₁ (L ++ cs₁.map (.called ⟨r, n⟩))
    exact ⟨o₂, w₂, cs₁ ++ cs₂, by simpa using h₂⟩
  | (.error e, s) =>
    rw [hxs] at h₁
    exact ⟨o₁, w₁, cs₁, h₁⟩

theorem reword {x : Attempt (Numbered ο × σ × Ledger) ε α} (f : ε → ε') (h : OnlyCalls r x) :
    OnlyCalls r (x.reword f) := h

/-- Reading from a cursor leaves it where it is. -/
theorem of_reads {f : Numbered ο → Attempt (σ × Ledger) ε α} (g : Except ε α → Except ε' β)
    (h : ∀ c, OnlyReads c.1 (f c)) :
    OnlyCalls .cursor (.of fun (c, s) => let (a, s') := (f c).apply s; (g a, c, s') :
      Attempt (Numbered ο × σ × Ledger) ε' β) := by
  intro n o w L
  obtain ⟨w', cs, he⟩ := h (n, o) w L
  exact ⟨o, w', cs, by simp [he]⟩

end OnlyCalls

theorem getAs_onlyReads {D : Driver σ} (t : Target) (c : D.audited.Cursor) (column : Nat) :
    OnlyReads c.1 (D.audited.getAs t c column) := by
  intro w L
  rw [D.audited.getAs_apply_snd]
  exact reading_onlyReads c.1 .get (D.get c.2 column) w L

/-- A pass over all remaining rows only makes calls on the cursor, if each of its steps does. -/
theorem collect_onlyCalls {D : Driver σ} {wrap : Failure → ε}
    {step : Nat → D.audited.Cursor → Attempt (σ × Ledger) ε α} (hstep : ∀ k c, OnlyReads c.1 (step k c))
    (k : Nat) : OnlyCalls .cursor (.of (D.audited.collect wrap step k)) := by
  intro n c w L
  -- The object and its number stay the same during the pass, and the entries are its calls.
  let OnlyCalled (s : D.audited.Cursor × σ × Ledger) : Prop :=
    ∃ c' w', ∃ cs : List Call, s = ((n, c'), w', L ++ cs.map (.called ⟨.cursor, n⟩))
  have hnext : ∀ s, OnlyCalled s → OnlyCalled (D.audited.next.apply s).2 := by
    rintro _ ⟨c₁, w₁, cs₁, rfl⟩
    obtain ⟨c₂, w₂, cs₂, h₂⟩ :=
      calling_onlyCalls .cursor .next D.next n c₁ w₁ (L ++ cs₁.map (.called ⟨.cursor, n⟩))
    exact ⟨c₂, w₂, cs₁ ++ cs₂, by rw [List.map_append, ← List.append_assoc]; exact h₂⟩
  have hread : ∀ k c s, OnlyCalled (c, s) → OnlyCalled (c, ((step k c).apply s).2) := by
    rintro k c s ⟨c₁, w₁, cs₁, hs⟩
    obtain ⟨rfl, rfl⟩ := Prod.mk.inj hs
    obtain ⟨w₂, cs₂, h₂⟩ := hstep k (n, c₁) w₁ (L ++ cs₁.map (.called ⟨.cursor, n⟩))
    exact ⟨c₁, w₂, cs₁ ++ cs₂, by rw [List.map_append, ← List.append_assoc]; exact congrArg _ h₂⟩
  exact Driver.collect_invariant D.audited hnext hread k ((n, c), w, L) ⟨c, w, [], by simp⟩

end Ledger

end NamedSql
