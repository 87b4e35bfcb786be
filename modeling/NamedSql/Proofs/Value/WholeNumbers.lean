import NamedSql.Proofs.Text.WholeNumbers
import NamedSql.Proofs.Value.Nulls

/-!
# `Proofs.Value.WholeNumbers` — values read as whole numbers

Numbers of three widths, truth values and texts stand for whole numbers; nothing else does. Read as a number of one of
the widths, a value is the number that it stands for or it is refused, and two messages tell the reasons apart: that it
stands for no number, and that its number has no place in the width. So it makes no difference whether a number is read
as it is or from its decimal text.

## Contents
- **Widths.** `WholeType`, its contents as integers (`toInt_ofInt`, `holds_toInt`), and `WholeType.Holds`.
- **What a value stands for.** `Value.StandsFor`, with `whole?_eq_some_iff`.
- **Reading.** `WholeType.Reads`: how a value is read. `read_of_standsFor`, `read_of_not_standsFor`, `reads_read`.
- `WholeType.read_exact`.
- `WholeType.read_display_between_blanks`.
-/

namespace NamedSql

/-! ## Widths -/

/-- The SQL types of whole numbers. -/
inductive WholeType where
  | smallInt | integer | bigInt
deriving DecidableEq, Repr

namespace WholeType

/-- The SQL type. -/
def sqlType : WholeType → SqlType
  | smallInt => .smallInt
  | integer  => .integer
  | bigInt   => .bigInt

/-- How the type is called in messages. -/
def name : WholeType → String
  | smallInt => "i16"
  | integer  => "i32"
  | bigInt   => "i64"

/-- The first positive number that has no place in the type. -/
def beyond : WholeType → Int
  | smallInt => 2 ^ 15
  | integer  => 2 ^ 31
  | bigInt   => 2 ^ 63

/-- A number has a place in the type. -/
def Holds (t : WholeType) (n : Int) : Prop := -t.beyond ≤ n ∧ n < t.beyond

instance (t : WholeType) (n : Int) : Decidable (t.Holds n) := inferInstanceAs (Decidable (_ ∧ _))

/-- The number that is held. -/
def toInt : (t : WholeType) → t.sqlType.Carrier → Int
  | smallInt, n => Int16.toInt n
  | integer,  n => Int32.toInt n
  | bigInt,   n => Int64.toInt n

/-- The content that holds a number. -/
def ofInt : (t : WholeType) → Int → t.sqlType.Carrier
  | smallInt, n => Int16.ofInt n
  | integer,  n => Int32.ofInt n
  | bigInt,   n => Int64.ofInt n

theorem holds_toInt (t : WholeType) (x : t.sqlType.Carrier) : t.Holds (t.toInt x) := by
  cases t with
  | smallInt => exact ⟨Int16.le_toInt x, Int16.toInt_lt x⟩
  | integer  => exact ⟨Int32.le_toInt x, Int32.toInt_lt x⟩
  | bigInt   => exact ⟨Int64.le_toInt x, Int64.toInt_lt x⟩

theorem toInt_ofInt {t : WholeType} {n : Int} (h : t.Holds n) : t.toInt (t.ofInt n) = n := by
  cases t with
  | smallInt => exact Int16.toInt_ofInt_of_le h.1 h.2
  | integer  => exact Int32.toInt_ofInt_of_le h.1 h.2
  | bigInt   => exact Int64.toInt_ofInt_of_le h.1 h.2

theorem ofInt_toInt (t : WholeType) (x : t.sqlType.Carrier) : t.ofInt (t.toInt x) = x := by
  cases t with
  | smallInt => exact Int16.ofInt_toInt x
  | integer  => exact Int32.ofInt_toInt x
  | bigInt   => exact Int64.ofInt_toInt x

/-- Every number of a type has a place in the widest one. -/
theorem Holds.bigInt {t : WholeType} {n : Int} (h : t.Holds n) : WholeType.bigInt.Holds n := by
  unfold Holds at h ⊢
  cases t with
  | smallInt => simp only [beyond] at h ⊢; omega
  | integer  => simp only [beyond] at h ⊢; omega
  | bigInt   => exact h

theorem inRange_iff {t : WholeType} {n : Int} :
    Value.inRange (-t.beyond) (t.beyond - 1) n = true ↔ t.Holds n := by
  simp only [Value.inRange, Holds, Bool.and_eq_true, decide_eq_true_eq]
  omega

end WholeType

/-! ## What a value stands for -/

namespace Value

/-- A value stands for a number. A text does if it denotes the number and the number has a place in the widest type. -/
inductive StandsFor : Value → Int → Prop where
  | smallInt (n : Int16) : StandsFor (.smallInt n) n.toInt
  | int (n : Int32)      : StandsFor (.int n) n.toInt
  | bigInt (n : Int64)   : StandsFor (.bigInt n) n.toInt
  | false                : StandsFor (.bool false) 0
  | true                 : StandsFor (.bool true) 1
  | text {s : String} {n : Int} : Numeral.Denotes s.toList n → WholeType.bigInt.Holds n → StandsFor (.text s) n

theorem whole?_text (s : String) (n : Int) :
    (text s).whole? = some n ↔ Numeral.Denotes s.toList n ∧ WholeType.bigInt.Holds n := by
  have hrange : inRange Int64.minValue.toInt Int64.maxValue.toInt n = true ↔ WholeType.bigInt.Holds n :=
    WholeType.inRange_iff (t := .bigInt)
  rw [whole?, Option.filter_eq_some_iff, Numeral.integer?_trim_eq_some_iff, hrange]

theorem whole?_eq_some_iff {v : Value} {n : Int} : v.whole? = some n ↔ v.StandsFor n := by
  constructor
  · intro h
    cases v with
    | smallInt m => obtain rfl := Option.some.inj h; exact .smallInt m
    | int m      => obtain rfl := Option.some.inj h; exact .int m
    | bigInt m   => obtain rfl := Option.some.inj h; exact .bigInt m
    | bool b     =>
      obtain rfl := Option.some.inj h
      cases b with
      | false => exact .false
      | true  => exact .true
    | text s     =>
      obtain ⟨hdenotes, hholds⟩ := (whole?_text s n).mp h
      exact .text hdenotes hholds
    | _          => simp [whole?] at h
  · intro h
    cases h with
    | text hdenotes hholds => exact (whole?_text _ n).mpr ⟨hdenotes, hholds⟩
    | _                    => rfl

/-- A null stands for no number. -/
theorem StandsFor.not_null {v : Value} {n : Int} (h : v.StandsFor n) : v.isNull = Bool.false := by
  cases h with
  | _ => rfl

/-- A number stands for itself. -/
theorem standsFor_ofCarrier (t : WholeType) (x : t.sqlType.Carrier) :
    (ofCarrier t.sqlType x).StandsFor (t.toInt x) := by
  cases t with
  | smallInt => exact .smallInt x
  | integer  => exact .int x
  | bigInt   => exact .bigInt x

end Value

/-! ## Reading -/

namespace WholeType

/-- How a value is read as a number of a type. -/
inductive Reads (t : WholeType) (v : Value) : Except Failure (Option t.sqlType.Carrier) → Prop where
  /-- A null reads as nothing. -/
  | nothing : v.isNull = true → Reads t v (.ok none)
  /-- The number that the value stands for has a place in the type, and is read. -/
  | number (x : t.sqlType.Carrier) : v.StandsFor (t.toInt x) → Reads t v (.ok (some x))
  /-- The number that the value stands for has no place in the type. -/
  | tooFar {n : Int} : v.StandsFor n → ¬ t.Holds n → Reads t v (.error (.outOfRange n t.sqlType))
  /-- The value stands for no number. -/
  | noNumber : v.isNull = false → (∀ n, ¬ v.StandsFor n) → Reads t v (.error (.mismatch v t.sqlType))

variable {v : Value} {n : Int}

theorem read_eq (t : WholeType) (v : Value) :
    v.read t.sqlType = (v.readWhole t.sqlType (-t.beyond) (t.beyond - 1)).map (·.map t.ofInt) := by
  cases t with
  | smallInt => rfl
  | integer  => rfl
  | bigInt   => rfl

theorem read_of_standsFor (t : WholeType) (h : v.StandsFor n) :
    v.read t.sqlType = if t.Holds n then .ok (some (t.ofInt n)) else .error (.outOfRange n t.sqlType) := by
  rw [read_eq, Value.readWhole_of_not_null h.not_null, Value.whole?_eq_some_iff.mpr h]
  simp only [inRange_iff]
  by_cases hholds : t.Holds n
  · rw [if_pos hholds, if_pos hholds]
    rfl
  · rw [if_neg hholds, if_neg hholds]
    rfl

theorem read_of_not_standsFor (t : WholeType) (hnull : v.isNull = false) (h : ∀ n, ¬ v.StandsFor n) :
    v.read t.sqlType = .error (.mismatch v t.sqlType) := by
  have hnone : v.whole? = none := Option.eq_none_iff_forall_ne_some.mpr fun n hn => h n (Value.whole?_eq_some_iff.mp hn)
  rw [read_eq, Value.readWhole_of_not_null hnull, hnone]
  rfl

theorem reads_read (t : WholeType) (v : Value) : t.Reads v (v.read t.sqlType) := by
  cases hnull : v.isNull with
  | true  =>
    rw [Value.read_eq_none_iff.mpr hnull]
    exact .nothing hnull
  | false =>
    by_cases h : ∃ n, v.StandsFor n
    · obtain ⟨n, hn⟩ := h
      rw [read_of_standsFor t hn]
      by_cases hholds : t.Holds n
      · rw [if_pos hholds]
        exact .number _ (by rwa [toInt_ofInt hholds])
      · rw [if_neg hholds]
        exact .tooFar hn hholds
    · have hno : ∀ n, ¬ v.StandsFor n := fun n hn => h ⟨n, hn⟩
      rw [read_of_not_standsFor t hnull hno]
      exact .noNumber hnull hno

theorem Reads.eq_read {t : WholeType} {r : Except Failure (Option t.sqlType.Carrier)} (h : t.Reads v r) :
    v.read t.sqlType = r := by
  cases h with
  | nothing hnull      => exact Value.read_eq_none_iff.mpr hnull
  | number x hn        => rw [read_of_standsFor t hn, if_pos (t.holds_toInt x), ofInt_toInt]
  | tooFar hn hholds   => rw [read_of_standsFor t hn, if_neg hholds]
  | noNumber hnull hno => exact read_of_not_standsFor t hnull hno

/-- **Whole numbers are read exactly.** A null reads as nothing. A value that stands for a whole number reads as this
    number where it has a place in the type, and is refused as out of range where it has none; a text stands for the
    number that is written in it between blanks, if that is a number of 64 bits. Every other value is refused as one of
    another kind. So no number is wrapped or cut. The two messages tell the number, or else the value, and the type. -/
theorem read_exact (t : WholeType) (v : Value) :
    (∀ r, v.read t.sqlType = r ↔ t.Reads v r)
      ∧ (∀ n, (Failure.outOfRange n t.sqlType).message = toString n ++ " is out of range for " ++ t.name)
      ∧ (Failure.mismatch v t.sqlType).message
          = "cannot convert " ++ v.sqlType.name ++ " value '" ++ v.display ++ "' to " ++ t.name := by
  have hname : t.sqlType.targetName = t.name := by
    cases t with
    | _ => rfl
  refine ⟨fun r => ⟨?_, Reads.eq_read⟩, ?_, ?_⟩
  · rintro rfl
    exact reads_read t v
  · intro n
    rw [← Numeral.ofList_integer, ← hname]
    rfl
  · rw [← hname]
    rfl

/-- A text between blanks, with a sign and zeros in front, on either side of the greatest number of 16 bits. -/
example :
    (Value.text "\u3000+0032767\n").read .smallInt = .ok (some Int16.maxValue)
      ∧ (Value.text "\u3000+0032768\n").read .smallInt = .error (.outOfRange 32768 .smallInt) :=
  ⟨rfl, rfl⟩

/-! ## Through a text and back -/

/-- The decimal text of a number, between blanks, stands for the number. -/
theorem standsFor_text_integer {p q : String} (hp : ∀ c ∈ p.toList, isBlank c = true)
    (hq : ∀ c ∈ q.toList, isBlank c = true) (hn : bigInt.Holds n) :
    (Value.text (p ++ String.ofList (Decimal.integer n) ++ q)).StandsFor n := by
  refine .text ⟨p.toList, Decimal.integer n, q.toList, ?_, hp, hq, Numeral.writes_integer n⟩ hn
  simp

theorem read_varchar_ofCarrier (t : WholeType) (x : t.sqlType.Carrier) :
    (Value.ofCarrier t.sqlType x).read .varchar = .ok (some (String.ofList (Decimal.integer (t.toInt x)))) := by
  cases t with
  | _ => rfl

/-- **Through a text and back.** A whole number is read as a text, and blanks are put around it. Read as a whole number
    of any type, the text comes to what the number itself does: the same number, or the same failure. -/
theorem read_display_between_blanks (s t : WholeType) (x : s.sqlType.Carrier) (p q : String)
    (hp : ∀ c ∈ p.toList, isBlank c = true) (hq : ∀ c ∈ q.toList, isBlank c = true) :
    ∃ text : String, (Value.ofCarrier s.sqlType x).read .varchar = .ok (some text)
      ∧ (Value.text (p ++ text ++ q)).read t.sqlType = (Value.ofCarrier s.sqlType x).read t.sqlType := by
  have htext := standsFor_text_integer hp hq (s.holds_toInt x).bigInt
  have hnumber := Value.standsFor_ofCarrier s x
  refine ⟨_, read_varchar_ofCarrier s x, ?_⟩
  rw [read_of_standsFor t htext, read_of_standsFor t hnumber]

/-- The least number of 64 bits, between blanks and read as a number of 16 bits. -/
theorem read_display_between_blanks_leastNumber :
    (∀ c ∈ "\u3000\t".toList, isBlank c = true) ∧ (∀ c ∈ "\n".toList, isBlank c = true)
      ∧ (Value.text "\u3000\t-9223372036854775808\n").read .smallInt
          = .error (.outOfRange (-9223372036854775808) .smallInt) := by
  have hp : ∀ c ∈ "\u3000\t".toList, isBlank c = true := by simp [isBlank]
  have hq : ∀ c ∈ "\n".toList, isBlank c = true := by simp [isBlank]
  obtain ⟨text, htext, hread⟩ := read_display_between_blanks .bigInt .smallInt Int64.minValue _ _ hp hq
  obtain rfl : "-9223372036854775808" = text := Option.some.inj (Except.ok.inj htext)
  exact ⟨hp, hq, hread⟩

end WholeType

end NamedSql
