import NamedSql.MySql.ResultRows
import NamedSql.Proofs.Attempt.Ensures

/-!
# `Proofs.MySql.ColumnTypes` — one type for each column

The server names the type of a column by a text, and any text may come. Two tables over the names depend on it: how a
cell is decoded, and which type a null has. They agree for every name and for whatever a cell answers, so that the
values of a column have one type, whether they are null or not.

## Contents
- **Cells.** `Cell.having` and `Cell.null`, which have no more than one answer. `Cell.typed_of_answer` and
  `Cell.typed_of_number` for one entry of the table; `Cell.typed_of_content` for all of them. `Cell.decode_of_null` and
  `Cell.decode_of_content`; `Cell.sqlType_of_decode` for nulls as well.
- **Cursors.** `ResultRows.cell_of_get`: the cell that is behind a reading.
- `sqlType_by_name`.
-/

namespace NamedSql.MySql

variable {α β : Type} {v : Value}

/-! ## Cells -/

namespace Cell

/-- A cell that can be had in one form, and in no other. -/
def having (column : Column) (form : Form) (x : form.Carrier) : Cell where
  column   := column
  isNull   := .ok false
  ask f    := if h : form = f then .ok (h ▸ x) else .error ⟨"another form", []⟩
  overflow := ⟨"too large", []⟩

/-- A null. -/
def null (column : Column) : Cell where
  column   := column
  isNull   := .ok true
  ask _    := .error ⟨"no value", []⟩
  overflow := ⟨"too large", []⟩

variable {c : Cell}

/-- What is made of an answer has one type, if all that can be made of it has. -/
theorem typed_of_answer {x : Except Report α} {make : α → Value} {type : SqlType}
    (hmake : ∀ a, (make a).isNull = false ∧ (make a).sqlType = type) (h : (do return make (← x)) = .ok v) :
    v.isNull = false ∧ v.sqlType = type := by
  obtain ⟨a, -, hv⟩ := Attempt.exists_of_bind_ok h
  obtain rfl := Except.ok.inj hv
  exact hmake a

/-- The same of a number that is given another width first. -/
theorem typed_of_number {x : Except Report α} {narrow : α → Except Report β} {make : β → Value} {type : SqlType}
    (hmake : ∀ b, (make b).isNull = false ∧ (make b).sqlType = type)
    (h : (do return make (← narrow (← x))) = .ok v) : v.isNull = false ∧ v.sqlType = type := by
  obtain ⟨a, -, hv⟩ := Attempt.exists_of_bind_ok h
  exact typed_of_answer hmake hv

/-- Whatever a cell holds that is no null, its value is none either and has the type of the nulls of the column. -/
theorem typed_of_content {name : String} (h : c.content name = .ok v) :
    v.isNull = false ∧ v.sqlType = sqlTypeOf name := by
  unfold content at h
  -- The names that both tables come to before they look at how a name ends.
  split at h
  case h_1 | h_6             => exact typed_of_answer (fun _ => ⟨rfl, rfl⟩) h
  case h_2 | h_3 | h_4 | h_5 => exact typed_of_number (fun _ => ⟨rfl, rfl⟩) h
  by_cases hunsigned : "UNSIGNED".toList.isSuffixOf name.toList = true
  · have htype : sqlTypeOf name = .bigInt := by
      simp only [sqlTypeOf, if_pos hunsigned]
    rw [if_pos hunsigned] at h
    rw [htype]
    exact typed_of_number (fun _ => ⟨rfl, rfl⟩) h
  · rw [if_neg hunsigned] at h
    -- The names that come later, and then all the others.
    split at h
    case h_7 | h_8 => exact typed_of_number (fun _ => ⟨rfl, rfl⟩) h
    case h_10      =>
      have htype : sqlTypeOf name = .varchar := by
        simp only [sqlTypeOf, if_neg hunsigned]
      rw [htype]
      exact typed_of_answer (fun _ => ⟨rfl, rfl⟩) h
    all_goals exact typed_of_answer (fun _ => ⟨rfl, rfl⟩) h

theorem decode_of_null (h : c.isNull = .ok true) : c.decode = .ok (.null (sqlTypeOf c.column.typeName)) := by
  rw [decode, h]
  rfl

theorem decode_of_content (h : c.isNull = .ok false) : c.decode = c.content c.column.typeName := by
  rw [decode, h]
  rfl

/-- The values of a cell, nulls included, have the type that the name of its column says. -/
theorem sqlType_of_decode (h : c.decode = .ok v) : v.sqlType = sqlTypeOf c.column.typeName := by
  obtain ⟨isNull, hnull, -⟩ := Attempt.exists_of_bind_ok h
  cases isNull with
  | true  =>
    rw [decode_of_null hnull] at h
    obtain rfl := Except.ok.inj h
    rfl
  | false =>
    rw [decode_of_content hnull] at h
    exact (typed_of_content h).2

end Cell

/-! ## Cursors -/

namespace ResultRows

variable {r : ResultRows} {row : List Cell} {n : Nat}

theorem mem_of_current (h : r.current = .ok row) : row ∈ r.rows := by
  rw [current] at h
  split at h
  · simp at h
  · split at h
    case h_1 row' hplace =>
      obtain rfl := Except.ok.inj h
      obtain ⟨i, -, hi⟩ := Option.bind_eq_some_iff.mp hplace
      exact List.mem_of_getElem? hi
    case h_2 => simp at h

theorem cell_of_column (h : ResultRows.column row n = .ok v) : ∃ c, row[n - 1]? = some c ∧ c.decode = .ok v := by
  rw [ResultRows.column] at h
  by_cases hn : n = 0
  · simp [hn] at h
  · rw [if_neg hn] at h
    cases hc : row[n - 1]? with
    | none   => simp [hc] at h
    | some c =>
      simp only [hc] at h
      cases hv : c.decode with
      | error e =>
        rw [hv] at h
        cases h
      | ok v'   =>
        rw [hv] at h
        obtain rfl := Except.ok.inj h
        exact ⟨c, rfl, hv⟩

/-- A value that a cursor answers was read from a cell of one of its rows. -/
theorem cell_of_get (h : r.get n = .ok v) : ∃ row ∈ r.rows, ∃ c, row[n - 1]? = some c ∧ c.decode = .ok v := by
  rw [get] at h
  cases hcurrent : r.current with
  | error e =>
    rw [hcurrent] at h
    simp [bind, Except.bind] at h
  | ok row  =>
    rw [hcurrent] at h
    exact ⟨row, mem_of_current hcurrent, cell_of_column h⟩

end ResultRows

/-- **All values of a column have one type.** Whatever the name of a column's type is and whatever its cells answer: a
    null has the type that the table of nulls says, and what is not null and can be decoded is a value of the same type,
    and no null. So the values of a column have one type at every row of a cursor, nulls included. -/
theorem sqlType_by_name :
    (∀ c : Cell, c.isNull = .ok true → c.decode = .ok (.null (sqlTypeOf c.column.typeName)))
      ∧ (∀ (c : Cell) (v : Value), c.isNull = .ok false → c.decode = .ok v →
          v.isNull = false ∧ v.sqlType = sqlTypeOf c.column.typeName)
      ∧ (∀ (c : Cell) (v : Value), c.decode = .ok v → v.sqlType = sqlTypeOf c.column.typeName)
      ∧ ∀ (columns : List Column) (r : ResultRows), (∀ row ∈ r.rows, row.map Cell.column = columns) →
          ∀ (n : Nat) (v : Value), r.get n = .ok v →
            columns[n - 1]?.map (sqlTypeOf ·.typeName) = some v.sqlType := by
  refine ⟨fun c => Cell.decode_of_null, ?_, fun c v => Cell.sqlType_of_decode, ?_⟩
  · intro c v hnull h
    rw [Cell.decode_of_content hnull] at h
    exact Cell.typed_of_content h
  · intro columns r hcolumns n v h
    obtain ⟨row, hrow, c, hc, hdecode⟩ := ResultRows.cell_of_get h
    have hcolumn : columns[n - 1]? = some c.column := by
      rw [← hcolumns row hrow, List.getElem?_map, hc, Option.map_some]
    rw [hcolumn, Option.map_some, Cell.sqlType_of_decode hdecode]

/-- A leap day. -/
def leapDay : Date := ⟨2024, 2, 29, by decide, by decide⟩

/-- A column of dates with a date and a null. -/
def birthdays : List (List Cell) :=
  let born : Column := ⟨"born", "DATE"⟩
  [[.having born .date leapDay], [.null born]]

/-- A text in a column whose type neither table knows. -/
def shape : Cell := .having ⟨"shape", "GEOMETRY"⟩ .text "POINT(1 2)"

/-- A null in the same column. -/
def noShape : Cell := .null ⟨"shape", "GEOMETRY"⟩

/-- Dates and nulls in one column; and a name that neither table knows, with a text and with a null. -/
theorem sqlType_by_name_birthdays :
    (shape.isNull = .ok false ∧ shape.decode = .ok (.text "POINT(1 2)") ∧ noShape.isNull = .ok true
        ∧ noShape.decode = .ok (.null (Value.text "POINT(1 2)").sqlType))
      ∧ (∀ row ∈ birthdays, row.map Cell.column = [⟨"born", "DATE"⟩])
      ∧ ∀ i < 2, ∃ v, (ResultRows.mk birthdays (some i) false).get 1 = .ok v
          ∧ (v.isNull ↔ i ≠ 0) ∧ v.sqlType = sqlTypeOf "DATE" := by
  obtain ⟨hnulls, hcells, -, hcursors⟩ := sqlType_by_name
  have hshape : shape.decode = .ok (.text "POINT(1 2)") := rfl
  have htype : (Value.text "POINT(1 2)").sqlType = sqlTypeOf "GEOMETRY" := (hcells shape _ rfl hshape).2
  have hnoShape : noShape.decode = .ok (.null (sqlTypeOf "GEOMETRY")) := hnulls noShape rfl
  rw [← htype] at hnoShape
  have hcolumns : ∀ row ∈ birthdays, row.map Cell.column = [⟨"born", "DATE"⟩] := by
    simp [birthdays, Cell.having, Cell.null]
  have hanswers : ∀ i < 2, ∃ v, (ResultRows.mk birthdays (some i) false).get 1 = .ok v ∧ (v.isNull ↔ i ≠ 0) := by
    intro i hi
    obtain rfl | rfl : i = 0 ∨ i = 1 := by omega
    · exact ⟨.date leapDay, rfl, by decide⟩
    · exact ⟨.null .date, rfl, by decide⟩
  refine ⟨⟨rfl, hshape, rfl, hnoShape⟩, hcolumns, ?_⟩
  intro i hi
  obtain ⟨v, hget, hnull⟩ := hanswers i hi
  have hv : some (sqlTypeOf "DATE") = some v.sqlType := hcursors [⟨"born", "DATE"⟩] _ hcolumns 1 v hget
  exact ⟨v, hget, hnull, (Option.some.inj hv).symm⟩

end NamedSql.MySql
