import NamedSql.MySql.Driver
import NamedSql.Proofs.MySql.ColumnTypes
import Mathlib.Data.List.Forall2

/-!
# `Proofs.MySql.InMemory` — rows of a server and the same rows in memory

A cursor over the rows of a server decodes a cell when it is read and forgets its rows when it is closed; a cursor
in memory has the values from the start and only remembers that it was closed. As long as every cell can be decoded,
nobody who uses them can tell the two apart.

## Contents
- **Uses.** `CursorUse`, `CursorAnswer`, and `Driver.use`, `Driver.useAll` for the cursors of any driver.
- `Decodes`: a row and its values. `column_of_decodes`: reading a column of either.
- **Step and run.** `InStep` relates the two cursors; `InStep.use` for one use, `InStep.useAll` for any number.
- **Columns.** `InStep.columnCount` and `InStep.columnLabel`, while the rows are there.
- `useAll_inMemory`.
-/

namespace NamedSql

variable {σ τ : Type}

/-! ## Uses of a cursor -/

/-- One use of a cursor. -/
inductive CursorUse where
  | next
  | get (column : Nat)
  | close
deriving DecidableEq

/-- What a use of a cursor answers. -/
inductive CursorAnswer where
  | moved (r : Except Failure Bool)
  | read (r : Except Failure Value)
  | closed (r : Except Failure Unit)

namespace Driver

variable (D : Driver σ)

/-- Makes one use of a cursor. -/
def use (u : CursorUse) (s : D.Cursor × σ) : CursorAnswer × (D.Cursor × σ) :=
  match u with
  | .next  => let (r, s') := D.next.apply s; (.moved r, s')
  | .get n => let (r, w') := (D.get s.1 n).apply s.2; (.read r, s.1, w')
  | .close => let (r, s') := D.closeCursor.apply s; (.closed r, s')

/-- Makes some uses of a cursor, one after the other: the answers, and what is left at the end. -/
def useAll : List CursorUse → D.Cursor × σ → List CursorAnswer × (D.Cursor × σ)
  | [], s      => ([], s)
  | u :: us, s =>
    let (a, s')   := D.use u s
    let (as, s'') := useAll us s'
    (a :: as, s'')

end Driver

namespace MySql

/-! ## Rows and their values -/

/-- Every cell of a row can be decoded, and these are the values. -/
def Decodes (row : List Cell) (vs : List Value) : Prop := row.map Cell.decode = vs.map Except.ok

theorem column_of_decodes {row : List Cell} {vs : List Value} (h : Decodes row vs) (n : Nat) :
    ResultRows.column row n = Rows.column vs n := by
  unfold ResultRows.column Rows.column
  by_cases hn : n = 0
  · rw [if_pos hn, if_pos hn]
  · rw [if_neg hn, if_neg hn]
    have hcell : row[n - 1]?.map Cell.decode = vs[n - 1]?.map Except.ok := by
      rw [← List.getElem?_map, ← List.getElem?_map, h]
    match hrow : row[n - 1]?, hvs : vs[n - 1]? with
    | none, none     => rfl
    | some c, some v =>
      rw [hrow, hvs] at hcell
      have hvalue : c.decode = .ok v := Option.some.inj hcell
      simp only [hvalue]
      rfl
    | none, some v   =>
      rw [hrow, hvs] at hcell
      exact absurd hcell (by simp)
    | some c, none   =>
      rw [hrow, hvs] at hcell
      exact absurd hcell (by simp)

/-! ## Steps and runs -/

section
variable {rows : List (List Cell)} {labels : List String} {values : List (List Value)}

/-- A cursor over some rows of a server and one in memory are at the same place, and both are closed or neither
    is. -/
structure InStep (rows : List (List Cell)) (labels : List String) (values : List (List Value)) (r : ResultRows)
    (m : Rows) : Prop where
  position : r.position = m.position
  closed   : r.closed = m.closed
  rows     : r.closed = false → r.rows = rows
  values   : m.rows = values
  labels   : m.labels = labels

theorem inStep_ofRows : InStep rows labels values (.ofRows rows) (.ofRows labels values) :=
  ⟨rfl, rfl, fun _ => rfl, rfl, rfl⟩

namespace InStep

variable {r : ResultRows} {m : Rows}

section
variable (h : InStep rows labels values r m) (hvalues : List.Forall₂ Decodes rows values)
include h hvalues

theorem next : r.next.1 = m.next.1 ∧ InStep rows labels values r.next.2 m.next.2 := by
  unfold ResultRows.next Rows.next
  rw [← h.closed]
  by_cases hclosed : r.closed = true
  · rw [if_pos hclosed, if_pos hclosed]
    exact ⟨rfl, h⟩
  · have hupcoming : r.upcoming = m.upcoming := by
      unfold ResultRows.upcoming Rows.upcoming
      rw [h.position]
    have hlength : r.rows.length = m.rows.length := by
      rw [h.rows (eq_false_of_ne_true hclosed), h.values]
      exact hvalues.length_eq
    rw [if_neg hclosed, if_neg hclosed, hupcoming, hlength]
    exact ⟨rfl, rfl, rfl, h.rows, h.values, h.labels⟩

/-- Either both are on rows that correspond, or neither is on a row, for the same reason. -/
theorem current : (∃ row vs, r.current = .ok row ∧ m.current = .ok vs ∧ Decodes row vs)
    ∨ ∃ f, r.current = .error f ∧ m.current = .error f := by
  unfold ResultRows.current Rows.current
  rw [← h.closed]
  by_cases hclosed : r.closed = true
  · exact .inr ⟨.cursorClosed, if_pos hclosed, if_pos hclosed⟩
  · rw [if_neg hclosed, if_neg hclosed, h.rows (eq_false_of_ne_true hclosed), h.values, h.position]
    match m.position with
    | none   => exact .inr ⟨.offRow, rfl, rfl⟩
    | some i =>
      simp only [Option.bind_some]
      by_cases hi : i < rows.length
      · have hi' : i < values.length := hvalues.length_eq ▸ hi
        rw [List.getElem?_eq_getElem hi, List.getElem?_eq_getElem hi']
        exact .inl ⟨rows[i], values[i], rfl, rfl, hvalues.get hi hi'⟩
      · have hi' : ¬ i < values.length := hvalues.length_eq ▸ hi
        rw [List.getElem?_eq_none (Nat.le_of_not_lt hi), List.getElem?_eq_none (Nat.le_of_not_lt hi')]
        exact .inr ⟨.offRow, rfl, rfl⟩

theorem get (n : Nat) : r.get n = m.get n := by
  unfold ResultRows.get Rows.get
  rcases h.current hvalues with ⟨row, vs, hrow, hvs, hdecodes⟩ | ⟨f, hr, hm⟩
  · rw [hrow, hvs]
    exact column_of_decodes hdecodes n
  · rw [hr, hm]
    rfl

end

theorem close (h : InStep rows labels values r m) : InStep rows labels values r.close m.close :=
  ⟨h.position, rfl, fun hopen => absurd hopen (by simp [ResultRows.close]), h.values, h.labels⟩

section
variable (hvalues : List.Forall₂ Decodes rows values)
include hvalues

/-- One use of either cursor has the same answer, and they stay in step. -/
theorem use (h : InStep rows labels values r m) (u : CursorUse) (p : Pooled τ) :
    ∃ a r' m', (driver τ).use u (.result r, p) = (a, .result r', p) ∧ Rows.driver.use u (m, ()) = (a, m', ())
      ∧ InStep rows labels values r' m' ∧ (u ≠ .close → r'.closed = r.closed) := by
  cases u with
  | next  =>
    obtain ⟨hanswer, hnext⟩ := h.next hvalues
    have hopen : r.next.2.closed = r.closed := by
      unfold ResultRows.next
      split
      · rfl
      · rfl
    exact ⟨.moved m.next.1, r.next.2, m.next.2, congrArg (fun b => (CursorAnswer.moved b, _)) hanswer, rfl, hnext,
      fun _ => hopen⟩
  | get n =>
    exact ⟨.read (m.get n), r, m, congrArg (fun v => (CursorAnswer.read v, _)) (h.get hvalues n), rfl, h,
      fun _ => rfl⟩
  | close => exact ⟨_, r.close, m.close, rfl, rfl, h.close, fun hne => absurd rfl hne⟩

theorem useAll (h : InStep rows labels values r m) (us : List CursorUse) (p : Pooled τ) :
    ∃ as r' m', (driver τ).useAll us (.result r, p) = (as, .result r', p)
      ∧ Rows.driver.useAll us (m, ()) = (as, m', ()) ∧ InStep rows labels values r' m'
      ∧ (.close ∉ us → r'.closed = r.closed) := by
  induction us generalizing r m with
  | nil => exact ⟨[], r, m, rfl, rfl, h, fun _ => rfl⟩
  | cons u us ih =>
    obtain ⟨a, r₁, m₁, hserver, hmemory, h₁, hopen⟩ := h.use hvalues u p
    obtain ⟨as, r₂, m₂, hserver', hmemory', h₂, hopen'⟩ := ih h₁
    refine ⟨a :: as, r₂, m₂, ?_, ?_, h₂, ?_⟩
    · simp only [Driver.useAll, hserver, hserver']
    · simp only [Driver.useAll, hmemory, hmemory']
    · intro hclose
      obtain ⟨hne, hclose⟩ := List.ne_and_not_mem_of_not_mem_cons hclose
      exact (hopen' hclose).trans (hopen (Ne.symm hne))

end

/-! ## Columns -/

section
variable {columns : List Column} (h : InStep rows (columns.map Column.label) values r m) (hopen : r.closed = false)
  (hrows : rows ≠ []) (hcolumns : ∀ row ∈ rows, row.map Cell.column = columns)
include h hopen hrows hcolumns

theorem head_columns : (r.rows.head?.getD []).map Cell.column = columns := by
  rw [h.rows hopen]
  obtain ⟨row, rest, rfl⟩ := List.exists_cons_of_ne_nil hrows
  exact hcolumns row (List.mem_cons_self ..)

theorem columnCount : r.columnCount = m.columnCount := by
  have hlength := congrArg List.length (head_columns h hopen hrows hcolumns)
  rw [List.length_map] at hlength
  rw [ResultRows.columnCount, Rows.columnCount, h.labels, List.length_map, hlength]

theorem columnLabel : r.columnLabel = m.columnLabel := by
  funext n
  rw [ResultRows.columnLabel, Rows.columnLabel, h.labels, ← head_columns h hopen hrows hcolumns]
  simp only [List.getElem?_map, Option.map_map]
  rfl

end

end InStep

/-- **Rows of a server and rows in memory.** Take rows that have the same columns, and whose cells can all be
    decoded. A cursor over them and one over their values in memory have the same answers, failures included, to the
    same uses, whatever they are. While the rows are there and the cursor has not been closed, the columns are the
    same too: their number, their labels and the places of the labels. -/
theorem useAll_inMemory (columns : List Column) (rows : List (List Cell)) (values : List (List Value))
    (hcolumns : ∀ row ∈ rows, row.map Cell.column = columns) (hvalues : List.Forall₂ Decodes rows values)
    (us : List CursorUse) (p : Pooled τ) :
    let server := (driver τ).useAll us (.result (.ofRows rows), p)
    let memory := Rows.driver.useAll us (.ofRows (columns.map Column.label) values, ())
    server.1 = memory.1
      ∧ (rows ≠ [] → .close ∉ us →
          (driver τ).columnCount server.2.1 = Rows.driver.columnCount memory.2.1
            ∧ (∀ n, (driver τ).columnLabel server.2.1 n = Rows.driver.columnLabel memory.2.1 n)
            ∧ ∀ label, (driver τ).columnIndex server.2.1 label = Rows.driver.columnIndex memory.2.1 label) := by
  have hbegin : InStep rows (columns.map Column.label) values (.ofRows rows) (.ofRows _ values) := inStep_ofRows
  obtain ⟨as, r, m, hserver, hmemory, h, hstays⟩ := hbegin.useAll hvalues us p
  intro server memory
  rw [show server = (as, .result r, p) from hserver, show memory = (as, m, ()) from hmemory]
  refine ⟨rfl, ?_⟩
  intro hrows hclose
  have hopen : r.closed = false := hstays hclose
  have hcount : r.columnCount = m.columnCount := h.columnCount hopen hrows hcolumns
  have hlabel : r.columnLabel = m.columnLabel := h.columnLabel hopen hrows hcolumns
  refine ⟨hcount, fun n => congrFun hlabel n, ?_⟩
  intro label
  show (List.range' 1 r.columnCount).find? _ = (List.range' 1 m.columnCount).find? _
  rw [hcount]
  show (List.range' 1 m.columnCount).find? (fun n => (r.columnLabel n).any (Driver.sameLabel · label)) = _
  rw [hlabel]
  rfl

/-- Two rows with a null in the second one. -/
def visits : List (List Cell) :=
  let id : Column := ⟨"id", "INT"⟩
  let seen : Column := ⟨"seen", "TIMESTAMP"⟩
  [[.having id .int64 (7 : Int64), .having seen .timestamp ⟨leapDay, Time.midnight⟩],
    [.having id .int64 (8 : Int64), .null seen]]

/-- Their values. -/
def visitValues : List (List Value) := [[.int 7, .timestamp ⟨leapDay, Time.midnight⟩], [.int 8, .null .timestamp]]

/-- The two rows, read in some places where there is nothing to read. -/
theorem useAll_inMemory_nullCell :
    (∀ row ∈ visits, row.map Cell.column = [⟨"id", "INT"⟩, ⟨"seen", "TIMESTAMP"⟩])
      ∧ List.Forall₂ Decodes visits visitValues
      ∧ ((driver Unit).useAll [.get 1, .next, .get 2, .next, .get 2, .get 3, .close, .next]
            (.result (.ofRows visits), .ofFar ())).1
          = [.read (.error .offRow), .moved (.ok true), .read (.ok (.timestamp ⟨leapDay, Time.midnight⟩)),
              .moved (.ok true), .read (.ok (.null .timestamp)), .read (.error (.noColumn 3)), .closed (.ok ()),
              .moved (.error .cursorClosed)] := by
  have hcolumns : ∀ row ∈ visits, row.map Cell.column = [⟨"id", "INT"⟩, ⟨"seen", "TIMESTAMP"⟩] := by
    intro row hrow
    rcases List.mem_pair.mp hrow with rfl | rfl
    · rfl
    · rfl
  have hvalues : List.Forall₂ Decodes visits visitValues := by
    refine .cons ?_ (.cons ?_ .nil)
    · rfl
    · rfl
  refine ⟨hcolumns, hvalues, ?_⟩
  exact (useAll_inMemory _ visits visitValues hcolumns hvalues _ (.ofFar ())).1

end

end MySql

end NamedSql
