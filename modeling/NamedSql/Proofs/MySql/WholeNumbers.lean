import NamedSql.MySql.Driver
import NamedSql.Proofs.Driver.Reading
import NamedSql.Proofs.MySql.ColumnTypes
import NamedSql.Proofs.Value.WholeNumbers

/-!
# `Proofs.MySql.WholeNumbers` — whole numbers in the columns of a server

A column of whole numbers has a range of its own, with a sign or without one, of up to 64 bits. Its cells are asked for
numbers of 64 bits, or of 16 bits for a year, and these become values of three widths only, all with a sign. The width
that a type is given has a place for every number of the type, unless that has 64 bits and no sign; a number that has
no place there is refused. What comes out is then read as a number of the width that is wanted, and refused once more
if it has no place. So a number comes out as it is or not at all.

## Contents
- **Columns.** `CanHold`: the numbers that a column can hold, by the name of its type, and how its cells are asked for
  them. `CanHold.name_of_le`: only in columns without a sign and in bits there are numbers of more than 63 bits.
- **Cells.** `Cell.HandsOut`: a cell answers a number as it is. `CanHold.exists_cell` for each number that the column
  can hold.
- **Decoding.** `Cell.fit`, for a number that has a place in a width or not. `decode_eq_fit`: decoding a number is
  nothing else.
- **Cursors.** `ResultRows.StandsOn` for a cursor on a cell; `get_eq_fit` for the value there, and `read_fit` for the
  number that is read from it. `ok_iff_of_place`: such an answer is never another number.
- `get_whole_number`.
-/

namespace NamedSql.MySql

variable {τ : Type} {name : String} {form : Form} {n : Int} {c : Cell}

/-! ## Columns -/

/-- The whole numbers that a column can hold, by the name of its type, and the form in which its cells are asked for
    them. A type without a sign may have 64 bits, whatever its name begins with. No year is after 2155. -/
inductive CanHold : String → Form → Int → Prop where
  | tinyInt {n : Int} (h : -2 ^ 7 ≤ n ∧ n < 2 ^ 7) : CanHold "TINYINT" .int64 n
  | smallInt {n : Int} (h : -2 ^ 15 ≤ n ∧ n < 2 ^ 15) : CanHold "SMALLINT" .int64 n
  | mediumInt {n : Int} (h : -2 ^ 23 ≤ n ∧ n < 2 ^ 23) : CanHold "MEDIUMINT" .int64 n
  | int {n : Int} (h : -2 ^ 31 ≤ n ∧ n < 2 ^ 31) : CanHold "INT" .int64 n
  | bigInt {n : Int} (h : -2 ^ 63 ≤ n ∧ n < 2 ^ 63) : CanHold "BIGINT" .int64 n
  | unsigned (start : String) {n : Int} (h : 0 ≤ n ∧ n < 2 ^ 64) : CanHold (start ++ "UNSIGNED") .uint64 n
  | bit {n : Int} (h : 0 ≤ n ∧ n < 2 ^ 64) : CanHold "BIT" .uint64 n
  | year {n : Int} (h : 0 ≤ n ∧ n ≤ 2155) : CanHold "YEAR" .rawUInt16 n

theorem isSuffixOf_unsigned (start : String) : "UNSIGNED".toList.isSuffixOf (start ++ "UNSIGNED").toList = true := by
  rw [String.toList_append, List.isSuffixOf_iff_suffix]
  exact List.suffix_append _ _

/-- A name that ends otherwise is another one. -/
theorem ne_of_unsigned (start : String) {known : String} (h : "UNSIGNED".toList.isSuffixOf known.toList = false) :
    start ++ "UNSIGNED" ≠ known := by
  rintro rfl
  rw [isSuffixOf_unsigned] at h
  exact absurd h (by decide)

theorem sqlTypeOf_unsigned (start : String) : sqlTypeOf (start ++ "UNSIGNED") = .bigInt := by
  unfold sqlTypeOf
  split
  case h_7 => rw [if_pos (isSuffixOf_unsigned start)]
  -- None of the names that come first ends like that.
  all_goals
    rename_i hknown
    exact absurd hknown (ne_of_unsigned start (by decide))

/-- A number of more than 63 bits is in a column without a sign. -/
theorem CanHold.name_of_le (h : CanHold name form n) (hn : 2 ^ 63 ≤ n) :
    name = "BIT" ∨ ∃ start, name = start ++ "UNSIGNED" := by
  cases h with
  | unsigned start h => exact .inr ⟨start, rfl⟩
  | bit h            => exact .inl rfl
  | _ h              => omega

/-! ## Cells -/

/-- The whole number that is answered in a form, if it is a form for whole numbers. -/
def Form.number? : (f : Form) → f.Carrier → Option Int
  | int64,     x => some (Int64.toInt x)
  | uint64,    x => some (UInt64.toNat x)
  | rawUInt16, x => some (UInt16.toNat x)
  | _,         _ => none

/-- A cell is no null and answers a number as it is when it is asked for it in a form. -/
structure Cell.HandsOut (c : Cell) (form : Form) (n : Int) : Prop where
  isNull : c.isNull = .ok false
  answer : ∃ x, c.ask form = .ok x ∧ form.number? x = some n

theorem Cell.having_handsOut (column : Column) {x : form.Carrier} (h : form.number? x = some n) :
    (Cell.having column form x).HandsOut form n :=
  ⟨rfl, x, dif_pos rfl, h⟩

/-- Each number that a column can hold is handed out by some cell. -/
theorem CanHold.exists_cell (h : CanHold name form n) : ∃ c : Cell, c.column.typeName = name ∧ c.HandsOut form n := by
  have hsigned : -2 ^ 63 ≤ n → n < 2 ^ 63 → Form.int64.number? (Int64.ofInt n) = some n := fun hlow hhigh =>
    congrArg some (Int64.toInt_ofInt_of_le hlow hhigh)
  have hunsigned : 0 ≤ n ∧ n < 2 ^ 64 → Form.uint64.number? (UInt64.ofNat n.toNat) = some n := by
    intro hn
    have hsize : n.toNat < UInt64.size := by simp only [UInt64.size]; omega
    simp only [Form.number?, UInt64.toNat_ofNat_of_lt' hsize, Int.toNat_of_nonneg hn.1]
  cases h with
  | unsigned start h => exact ⟨_, rfl, Cell.having_handsOut ⟨"n", start ++ "UNSIGNED"⟩ (hunsigned h)⟩
  | bit h            => exact ⟨_, rfl, Cell.having_handsOut ⟨"n", "BIT"⟩ (hunsigned h)⟩
  | year h           =>
    have hsize : n.toNat < UInt16.size := by simp only [UInt16.size]; omega
    have hyear : Form.rawUInt16.number? (UInt16.ofNat n.toNat) = some n := by
      simp only [Form.number?, UInt16.toNat_ofNat_of_lt' hsize, Int.toNat_of_nonneg h.1]
    exact ⟨_, rfl, Cell.having_handsOut ⟨"n", "YEAR"⟩ hyear⟩
  | _ h              => exact ⟨_, rfl, Cell.having_handsOut ⟨"n", _⟩ (hsigned (by omega) (by omega))⟩

/-! ## Decoding -/

namespace Cell

/-- The value of a width that holds a number, if the number has a place there. -/
def fit (c : Cell) (t : WholeType) (n : Int) : Except Report Value :=
  if t.Holds n then .ok (.ofCarrier t.sqlType (t.ofInt n)) else .error c.overflow

/-- A number that is given a width becomes a value of this width. -/
theorem map_within (c : Cell) (t : WholeType) (n : Int) :
    (do return Value.ofCarrier t.sqlType (← (c.within (-t.beyond) (t.beyond - 1) n).map t.ofInt)) = c.fit t n := by
  unfold within fit
  by_cases h : t.Holds n
  · rw [if_pos (WholeType.inRange_iff.mpr h), if_pos h]
    rfl
  · rw [if_neg (mt WholeType.inRange_iff.mp h), if_neg h]
    rfl

/-- The same, if the number is asked for first. -/
theorem content_eq_fit (t : WholeType) {number : form.Carrier → Int} {x : form.Carrier}
    (hcontent : c.content name = do
      return Value.ofCarrier t.sqlType (← (c.within (-t.beyond) (t.beyond - 1) (number (← c.ask form))).map t.ofInt))
    (hform : ∀ y, form.number? y = some (number y)) (hask : c.ask form = .ok x) (hnumber : form.number? x = some n) :
    c.content name = c.fit t n := by
  obtain rfl : number x = n := Option.some.inj ((hform x).symm.trans hnumber)
  rw [hcontent, hask]
  exact c.map_within t (number x)

theorem fit_toInt (c : Cell) (t : WholeType) (x : t.sqlType.Carrier) :
    c.fit t (t.toInt x) = .ok (.ofCarrier t.sqlType x) := by
  rw [fit, if_pos (t.holds_toInt x), t.ofInt_toInt]

theorem content_unsigned (start : String) :
    c.content (start ++ "UNSIGNED") = do return .bigInt (← c.toInt64 (← c.ask .uint64).toNat) := by
  unfold content
  split
  case h_7 => rw [if_pos (isSuffixOf_unsigned start)]
  all_goals
    rename_i hknown
    exact absurd hknown (ne_of_unsigned start (by decide))

end Cell

/-- To decode a number that a cell hands out is to find it a place in the width of the column's values. Of the numbers
    that the column can hold, only those of more than 63 bits have none there. -/
theorem decode_eq_fit (hhold : CanHold c.column.typeName form n) (hout : c.HandsOut form n) :
    ∃ t : WholeType, t.sqlType = sqlTypeOf c.column.typeName ∧ (t.Holds n ↔ n < 2 ^ 63) ∧ c.decode = c.fit t n := by
  obtain ⟨hnull, x, hask, hnumber⟩ := hout
  rw [Cell.decode_of_content hnull]
  generalize c.column.typeName = name at hhold ⊢
  cases hhold with
  | tinyInt h | smallInt h =>
    exact ⟨.smallInt, rfl, by simp only [WholeType.Holds, WholeType.beyond]; omega,
      Cell.content_eq_fit .smallInt rfl (fun _ => rfl) hask hnumber⟩
  | mediumInt h | int h    =>
    exact ⟨.integer, rfl, by simp only [WholeType.Holds, WholeType.beyond]; omega,
      Cell.content_eq_fit .integer rfl (fun _ => rfl) hask hnumber⟩
  | bigInt h               =>
    -- The number has its width already.
    have hcontent : c.content "BIGINT" = do return .bigInt (← c.ask .int64) := rfl
    obtain rfl : WholeType.bigInt.toInt x = n := Option.some.inj hnumber
    refine ⟨.bigInt, rfl, by simp only [WholeType.Holds, WholeType.beyond]; omega, ?_⟩
    rw [hcontent, hask]
    exact (c.fit_toInt .bigInt x).symm
  | unsigned start h       =>
    exact ⟨.bigInt, (sqlTypeOf_unsigned start).symm, by simp only [WholeType.Holds, WholeType.beyond]; omega,
      Cell.content_eq_fit .bigInt (Cell.content_unsigned start) (fun _ => rfl) hask hnumber⟩
  | bit h                  =>
    exact ⟨.bigInt, rfl, by simp only [WholeType.Holds, WholeType.beyond]; omega,
      Cell.content_eq_fit .bigInt rfl (fun _ => rfl) hask hnumber⟩
  | year h                 =>
    exact ⟨.smallInt, rfl, by simp only [WholeType.Holds, WholeType.beyond]; omega,
      Cell.content_eq_fit .smallInt rfl (fun _ => rfl) hask hnumber⟩

/-! ## Cursors -/

/-- A cursor is on a row that has a cell in the column with a number, counted from 1. -/
def ResultRows.StandsOn (r : ResultRows) (k : Nat) (c : Cell) : Prop :=
  1 ≤ k ∧ ∃ row, r.current = .ok row ∧ row[k - 1]? = some c

theorem ResultRows.get_of_standsOn {r : ResultRows} {k : Nat} (h : r.StandsOn k c) :
    r.get k = c.decode.mapError .reported := by
  obtain ⟨hk, row, hrow, hc⟩ := h
  have hcolumn : ResultRows.column row k = c.decode.mapError .reported := by
    rw [ResultRows.column, if_neg (by omega), hc]
  rw [get, hrow]
  exact hcolumn

/-- A number is read as one of another width by way of the width in which it has been given a place. -/
theorem read_fit {width : WholeType} (hplace : width.Holds n ↔ n < 2 ^ 63) (t : WholeType) :
    ((c.fit width n).mapError Failure.reported).bind (Value.read t.sqlType)
      = if t.Holds n then .ok (some (t.ofInt n))
        else .error (if n < 2 ^ 63 then .outOfRange n t.sqlType else .reported c.overflow) := by
  rw [Cell.fit]
  by_cases hn : n < 2 ^ 63
  · have hstands : (Value.ofCarrier width.sqlType (width.ofInt n)).StandsFor n := by
      have hself := Value.standsFor_ofCarrier width (width.ofInt n)
      rwa [WholeType.toInt_ofInt (hplace.mpr hn)] at hself
    rw [if_pos (hplace.mpr hn), if_pos hn]
    exact WholeType.read_of_standsFor t hstands
  · -- What has no place in the width of the column has none in any other.
    have hnone : ¬ t.Holds n := fun ht => hn ht.bigInt.2
    rw [if_neg (mt hplace.mp hn), if_neg hn, if_neg hnone]
    rfl

/-- What answers a number where the number has a place, and a failure where it has none, answers no other number. -/
theorem ok_iff_of_place {t : WholeType} {n : Int} {e : Failure} {y : t.sqlType.Carrier} :
    (if t.Holds n then Except.ok (some (t.ofInt n)) else .error e) = .ok (some y) ↔ t.toInt y = n := by
  by_cases ht : t.Holds n
  · rw [if_pos ht]
    constructor
    · intro h
      obtain rfl : t.ofInt n = y := by simpa using h
      exact WholeType.toInt_ofInt ht
    · rintro rfl
      rw [t.ofInt_toInt]
  · rw [if_neg ht]
    constructor
    · intro h
      simp at h
    · rintro rfl
      exact absurd (t.holds_toInt y) ht

/-- **Whole numbers come out as they are.** Take a column of whole numbers, with a sign or without, and any number that
    it can hold; some cell hands the number out. A cursor that stands on such a cell answers a value with exactly this
    number, of the type that nulls of the column have; only a number of more than 63 bits, which must be in a column
    without a sign, is refused. Read as a number of 16, 32 or 64 bits, the cell is this number and never another one,
    if the number has a place there, and it is refused if it has none. The world stays as it is. -/
theorem get_whole_number (hhold : CanHold name form n) :
    (∃ c : Cell, c.column.typeName = name ∧ c.HandsOut form n)
      ∧ ∀ (c : Cell) (r : ResultRows) (k : Nat) (p : Pooled τ),
          c.column.typeName = name → c.HandsOut form n → r.StandsOn k c →
            let got := ((driver τ).get (.result r) k).apply p
            (n < 2 ^ 63 → ∃ (t : WholeType) (y : t.sqlType.Carrier),
                got = (.ok (.ofCarrier t.sqlType y), p) ∧ t.toInt y = n ∧ t.sqlType = sqlTypeOf name)
              ∧ (2 ^ 63 ≤ n → got = (.error (.reported c.overflow), p)
                  ∧ (name = "BIT" ∨ ∃ start, name = start ++ "UNSIGNED"))
              ∧ ∀ t : WholeType,
                  let read : Except Failure (Option t.sqlType.Carrier) × Pooled τ :=
                    ((driver τ).getAs (.typed t.sqlType) (.result r) k).apply p
                  (∀ y, read = (.ok (some y), p) ↔ t.toInt y = n)
                    ∧ ((∃ y, read = (.ok (some y), p)) ↔ t.Holds n)
                    ∧ (¬ t.Holds n → read
                        = (.error (if n < 2 ^ 63 then .outOfRange n t.sqlType else .reported c.overflow), p)) := by
  refine ⟨hhold.exists_cell, ?_⟩
  rintro c r k p rfl hout hcell got
  obtain ⟨width, htype, hplace, hdecode⟩ := decode_eq_fit hhold hout
  have hget : r.get k = (c.fit width n).mapError .reported := by
    rw [ResultRows.get_of_standsOn hcell, hdecode]
  have hgot : got = ((c.fit width n).mapError .reported, p) := congrArg (·, p) hget
  refine ⟨?_, ?_, ?_⟩
  · intro hn
    refine ⟨width, width.ofInt n, ?_, WholeType.toInt_ofInt (hplace.mpr hn), htype⟩
    rw [hgot, Cell.fit, if_pos (hplace.mpr hn)]
    rfl
  · intro hn
    refine ⟨?_, hhold.name_of_le hn⟩
    rw [hgot, Cell.fit, if_neg (by rw [hplace]; omega)]
    rfl
  · intro t read
    have hread : read = ((r.get k).bind (Value.read t.sqlType), p) :=
      (driver τ).getAs_apply (.typed t.sqlType) (.result r) k p
    rw [hget, read_fit hplace t] at hread
    have hexact : ∀ y, read = (.ok (some y), p) ↔ t.toInt y = n := by
      intro y
      rw [hread, Prod.mk.injEq, ok_iff_of_place]
      exact and_iff_left rfl
    refine ⟨hexact, ⟨?_, ?_⟩, ?_⟩
    · rintro ⟨y, hy⟩
      rw [← (hexact y).mp hy]
      exact t.holds_toInt y
    · intro ht
      exact ⟨t.ofInt n, (hexact _).mpr (WholeType.toInt_ofInt ht)⟩
    · intro ht
      rw [hread, if_neg ht]

/-- The least number of 24 bits. -/
def lowest : Cell := .having ⟨"low", "MEDIUMINT"⟩ .int64 (-8388608 : Int64)

/-- The least number of 64 bits without a sign that is refused. -/
def tooHigh : Cell := .having ⟨"high", "BIGINT UNSIGNED"⟩ .uint64 (9223372036854775808 : UInt64)

/-- A row with both. -/
def extremes : ResultRows := ⟨[[lowest, tooHigh]], some 0, false⟩

theorem get_whole_number_extremes :
    CanHold "MEDIUMINT" .int64 (-8388608) ∧ CanHold "BIGINT UNSIGNED" .uint64 9223372036854775808
      ∧ lowest.HandsOut .int64 (-8388608) ∧ tooHigh.HandsOut .uint64 9223372036854775808
      ∧ ((driver Unit).getAs (.typed .integer) (.result extremes) 1).apply (.ofFar ())
          = (.ok (some (-8388608 : Int32)), .ofFar ())
      ∧ ((driver Unit).getAs (.typed .smallInt) (.result extremes) 1).apply (.ofFar ())
          = (.error (.outOfRange (-8388608) .smallInt), .ofFar ())
      ∧ ((driver Unit).get (.result extremes) 2).apply (.ofFar ())
          = (.error (.reported tooHigh.overflow), .ofFar ()) := by
  have hlow : CanHold "MEDIUMINT" .int64 (-8388608) := .mediumInt (by decide)
  have hhigh : CanHold "BIGINT UNSIGNED" .uint64 9223372036854775808 := .unsigned "BIGINT " (by decide)
  have hlowOut : lowest.HandsOut .int64 (-8388608) := Cell.having_handsOut _ rfl
  have hhighOut : tooHigh.HandsOut .uint64 9223372036854775808 := Cell.having_handsOut _ rfl
  have hlowest := (@get_whole_number Unit _ _ _ hlow).2 lowest extremes 1 (.ofFar ()) rfl hlowOut
    ⟨by decide, _, rfl, rfl⟩
  have hhighest := (@get_whole_number Unit _ _ _ hhigh).2 tooHigh extremes 2 (.ofFar ()) rfl hhighOut
    ⟨by decide, _, rfl, rfl⟩
  obtain ⟨-, -, hread⟩ := hlowest
  refine ⟨hlow, hhigh, hlowOut, hhighOut, ?_, ?_, ?_⟩
  · exact ((hread .integer).1 (-8388608 : Int32)).mpr (by decide)
  · exact (hread .smallInt).2.2 (by decide)
  · exact (hhighest.2.1 (by decide)).1

end NamedSql.MySql
