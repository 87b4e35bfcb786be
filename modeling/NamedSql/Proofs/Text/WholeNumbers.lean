import Mathlib.Data.List.Induction
import Mathlib.Data.List.TakeWhile
import Mathlib.Data.Nat.Digits.Defs
import NamedSql.Text.Blank
import NamedSql.Text.Numeral

/-!
# `Proofs.Text.WholeNumbers` — whole numbers in texts

A text denotes a whole number if it is, apart from blanks at its two ends, an optional sign and at least one decimal
digit. The grammar says so without looking at how a text is read; reading finds exactly the numbers of the grammar, and
the plain decimal text of a number denotes that number.

## Contents
- **Blanks.** `trim_of_blanks` and `exists_blanks`: what is between the blanks.
- **Digits.** `Numeral.digitsNumber`, the number that digits stand for, and `value_eq_digitsNumber`.
- **Grammar.** `Numeral.Writes` for a sign and digits, `Numeral.Denotes` with blanks around them.
- **Reading.** `integer?_eq_some_iff`, and with blanks `integer?_trim_eq_some_iff`.
- **Writing.** `writes_integer` and `ofList_integer`: what the decimal text of a number denotes, and which text it is.
-/

namespace NamedSql

/-! ## Blanks -/

theorem dropWhile_blanks {p s : List Char} (hp : ∀ c ∈ p, isBlank c = true) (hs : ∀ c ∈ s, isBlank c = false) :
    (p ++ s).dropWhile isBlank = s := by
  rw [List.dropWhile_append_of_pos hp]
  cases s with
  | nil      => rfl
  | cons c s => simp [hs c (by simp)]

/-- The blanks at the two ends go, and nothing else does. -/
theorem trim_of_blanks {p s q : List Char} (hp : ∀ c ∈ p, isBlank c = true) (hs : ∀ c ∈ s, isBlank c = false)
    (hq : ∀ c ∈ q, isBlank c = true) : trim (p ++ s ++ q) = s := by
  have hback : ∀ c ∈ q.reverse, isBlank c = true := by simpa using hq
  have hkept : ∀ c ∈ s.reverse, isBlank c = false := by simpa using hs
  cases s with
  | nil      =>
    have hall : (p ++ q).dropWhile isBlank = [] := by
      rw [List.dropWhile_eq_nil_iff]
      intro c hc
      rcases List.mem_append.mp hc with hc | hc
      · exact hp c hc
      · exact hq c hc
    simp [trim, hall]
  | cons c s =>
    have hfront : (p ++ c :: s ++ q).dropWhile isBlank = c :: s ++ q := by
      rw [List.append_assoc, List.dropWhile_append_of_pos hp]
      simp [hs c (by simp)]
    rw [trim, hfront, List.reverse_append, dropWhile_blanks hback hkept, List.reverse_reverse]

theorem exists_blanks (s : List Char) :
    ∃ p q, s = p ++ trim s ++ q ∧ (∀ c ∈ p, isBlank c = true) ∧ ∀ c ∈ q, isBlank c = true := by
  let rest := s.dropWhile isBlank
  refine ⟨s.takeWhile isBlank, (rest.reverse.takeWhile isBlank).reverse, ?_, ?_, ?_⟩
  · have hback : trim s ++ (rest.reverse.takeWhile isBlank).reverse = rest := by
      rw [trim, ← List.reverse_append, List.takeWhile_append_dropWhile, List.reverse_reverse]
    rw [List.append_assoc, hback, List.takeWhile_append_dropWhile]
  · intro c hc
    exact List.mem_takeWhile_imp hc
  · intro c hc
    exact List.mem_takeWhile_imp (List.mem_reverse.mp hc)

namespace Numeral

/-! ## Digits -/

/-- The number that decimal digits stand for: the last one counts ones, the one before it tens, and so on. -/
def digitsNumber (ds : List Char) : Nat := Nat.ofDigits 10 (ds.reverse.map fun c => c.toNat - '0'.toNat)

theorem digitsNumber_concat (ds : List Char) (c : Char) :
    digitsNumber (ds ++ [c]) = 10 * digitsNumber ds + (c.toNat - '0'.toNat) := by
  simp [digitsNumber, Nat.ofDigits_cons]
  omega

/-- Reading digits from the left comes to the same number. -/
theorem value_eq_digitsNumber (ds : List Char) : Decimal.value ds = digitsNumber ds := by
  induction ds using List.reverseRecOn with
  | nil => rfl
  | append_singleton ds c ih =>
    rw [digitsNumber_concat, ← ih]
    simp [Decimal.value]

/-! ## The grammar of whole numbers -/

/-- An optional sign and some digits write a number. -/
inductive Writes : List Char → Int → Prop where
  | bare  {ds : List Char} : ds ≠ [] → (∀ c ∈ ds, c.isDigit = true) → Writes ds (digitsNumber ds)
  | plus  {ds : List Char} : ds ≠ [] → (∀ c ∈ ds, c.isDigit = true) → Writes ('+' :: ds) (digitsNumber ds)
  | minus {ds : List Char} : ds ≠ [] → (∀ c ∈ ds, c.isDigit = true) → Writes ('-' :: ds) (-digitsNumber ds)

/-- A text denotes a number if it writes the number between blanks. -/
def Denotes (s : List Char) (n : Int) : Prop :=
  ∃ p t q, s = p ++ t ++ q ∧ (∀ c ∈ p, isBlank c = true) ∧ (∀ c ∈ q, isBlank c = true) ∧ Writes t n

theorem isBlank_of_isDigit {c : Char} (h : c.isDigit = true) : isBlank c = false := by
  have hrange : 48 ≤ c.toNat ∧ c.toNat ≤ 57 := by simpa [Char.isDigit, UInt32.le_iff_toNat_le] using h
  simp [isBlank]
  omega

/-- No character of a number is blank. -/
theorem Writes.not_blank {t : List Char} {n : Int} (h : Writes t n) : ∀ c ∈ t, isBlank c = false := by
  cases h with
  | bare _ hds => exact fun c hc => isBlank_of_isDigit (hds c hc)
  | plus _ hds => exact List.forall_mem_cons.mpr ⟨by decide, fun c hc => isBlank_of_isDigit (hds c hc)⟩
  | minus _ hds => exact List.forall_mem_cons.mpr ⟨by decide, fun c hc => isBlank_of_isDigit (hds c hc)⟩

/-! ## Reading -/

/-- What stands behind the sign has to be digits. -/
theorem integer?_iff_of_signed {t ds : List Char} {negative : Bool} {n : Int} (h : signed t = (negative, ds)) :
    integer? t = some n ↔
      ds ≠ [] ∧ (∀ c ∈ ds, c.isDigit = true) ∧ withSign negative (digitsNumber ds) = n := by
  rw [integer?, h, ← value_eq_digitsNumber]
  simp only [natural?]
  by_cases hds : ds ≠ [] ∧ ds.all Char.isDigit = true
  · have hdigits : ∀ c ∈ ds, c.isDigit = true := List.all_eq_true.mp hds.2
    rw [if_pos hds, Option.map_some, Option.some_inj]
    exact ⟨fun hn => ⟨hds.1, hdigits, hn⟩, fun hn => hn.2.2⟩
  · rw [if_neg hds]
    simp only [Option.map_none, reduceCtorEq, false_iff]
    rintro ⟨hne, hdigits, -⟩
    exact hds ⟨hne, List.all_eq_true.mpr hdigits⟩

theorem signed_cases (t : List Char) :
    (∃ ds, t = '-' :: ds ∧ signed t = (true, ds)) ∨ (∃ ds, t = '+' :: ds ∧ signed t = (false, ds))
      ∨ signed t = (false, t) := by
  unfold signed
  split
  · exact .inl ⟨_, rfl, rfl⟩
  · exact .inr (.inl ⟨_, rfl, rfl⟩)
  · exact .inr (.inr rfl)

/-- Digits are not taken for a sign. -/
theorem signed_of_digits {ds : List Char} (hds : ∀ c ∈ ds, c.isDigit = true) : signed ds = (false, ds) := by
  rcases signed_cases ds with ⟨_, rfl, -⟩ | ⟨_, rfl, -⟩ | hsign
  · exact absurd (hds '-' (by simp)) (by decide)
  · exact absurd (hds '+' (by simp)) (by decide)
  · exact hsign

theorem integer?_eq_some_iff {t : List Char} {n : Int} : integer? t = some n ↔ Writes t n := by
  constructor
  · intro h
    rcases signed_cases t with ⟨ds, rfl, hsign⟩ | ⟨ds, rfl, hsign⟩ | hsign
    · obtain ⟨hne, hds, rfl⟩ := (integer?_iff_of_signed hsign).mp h
      exact .minus hne hds
    · obtain ⟨hne, hds, rfl⟩ := (integer?_iff_of_signed hsign).mp h
      exact .plus hne hds
    · obtain ⟨hne, hds, rfl⟩ := (integer?_iff_of_signed hsign).mp h
      exact .bare hne hds
  · intro h
    cases h with
    | bare hne hds        => exact (integer?_iff_of_signed (signed_of_digits hds)).mpr ⟨hne, hds, rfl⟩
    | @plus ds hne hds    =>
      have hsign : signed ('+' :: ds) = (false, ds) := rfl
      exact (integer?_iff_of_signed hsign).mpr ⟨hne, hds, rfl⟩
    | @minus ds hne hds   =>
      have hsign : signed ('-' :: ds) = (true, ds) := rfl
      exact (integer?_iff_of_signed hsign).mpr ⟨hne, hds, rfl⟩

/-- Reading a text without the blanks at its ends finds the number that the text denotes. -/
theorem integer?_trim_eq_some_iff {s : List Char} {n : Int} : integer? (trim s) = some n ↔ Denotes s n := by
  rw [integer?_eq_some_iff]
  constructor
  · intro h
    obtain ⟨p, q, hs, hp, hq⟩ := exists_blanks s
    exact ⟨p, trim s, q, hs, hp, hq, h⟩
  · rintro ⟨p, t, q, rfl, hp, hq, h⟩
    rwa [trim_of_blanks hp h.not_blank hq]

/-! ## Writing -/

theorem digitsNumber_natural (m : Nat) : digitsNumber (Decimal.natural m) = m := by
  have hfold := Nat.ofDigitChars_toDigits (b := 10) (n := m) (by decide) (by decide)
  rw [Nat.ofDigitChars_eq_foldl] at hfold
  rw [← value_eq_digitsNumber]
  exact hfold

/-- The decimal text of a number writes the number. -/
theorem writes_integer (n : Int) : Writes (Decimal.integer n) n := by
  have hne : Decimal.natural n.natAbs ≠ [] := Nat.toDigits_ne_nil
  have hds : ∀ c ∈ Decimal.natural n.natAbs, c.isDigit = true :=
    fun c hc => Nat.isDigit_of_mem_toDigits (by decide) (by decide) hc
  have hnumber : digitsNumber (Decimal.natural n.natAbs) = n.natAbs := digitsNumber_natural _
  unfold Decimal.integer
  by_cases hn : n < 0
  · have hminus : n = -digitsNumber (Decimal.natural n.natAbs) := by omega
    rw [if_pos hn]
    simpa [← hminus] using Writes.minus hne hds
  · have hplus : n = digitsNumber (Decimal.natural n.natAbs) := by omega
    rw [if_neg hn]
    simpa [← hplus] using Writes.bare hne hds

/-- The decimal text of a number is the usual one. -/
theorem ofList_integer (n : Int) : String.ofList (Decimal.integer n) = toString n := by
  show _ = n.repr
  unfold Decimal.integer
  by_cases hn : n < 0
  · have habs : (-n).toNat = n.natAbs := by omega
    rw [if_pos hn, Int.repr_eq_if, if_neg (by omega), habs, Nat.repr_eq_ofList_toDigits, String.ofList_cons]
    rfl
  · have habs : n.toNat = n.natAbs := by omega
    rw [if_neg hn, Int.repr_eq_if, if_pos (by omega), habs, Nat.repr_eq_ofList_toDigits]
    rfl

end Numeral

end NamedSql
