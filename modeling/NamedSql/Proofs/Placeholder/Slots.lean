import NamedSql.Placeholder.Positional

/-!
# `Proofs.Placeholder.Slots` — the slots of a name

## Contents
- `Positional.mem_slots_iff`: which they are, `inRange_of_mem_slots`: that they are slots of the statement, and
  `slots_ascending`: in which order they come.
- `Positional.slots_eq_nil_iff`: a name has no slots just if it does not occur.
-/

namespace NamedSql.Positional

variable {p : Positional} {name : String}

theorem mem_slots_iff {k : Nat} : k ∈ p.slots name ↔ 1 ≤ k ∧ p.names[k - 1]? = some name := by
  rw [mem_slots]
  constructor
  · rintro ⟨i, rfl, hi⟩
    exact ⟨by omega, hi⟩
  · rintro ⟨hk, hname⟩
    exact ⟨k - 1, by omega, hname⟩

theorem inRange_of_mem_slots {k : Nat} (h : k ∈ p.slots name) : 1 ≤ k ∧ k ≤ p.names.length := by
  obtain ⟨hk, hname⟩ := mem_slots_iff.mp h
  obtain ⟨hlt, -⟩ := List.getElem?_eq_some_iff.mp hname
  omega

theorem slots_ascending (p : Positional) (name : String) : (p.slots name).Pairwise (· < ·) := by
  refine List.pairwise_filterMap.mpr (List.pairwise_iff_getElem.mpr ?_)
  intro i j hi hj hij k hk l hl
  simp only [List.getElem_zipIdx, Option.ite_none_right_eq_some, Option.some.injEq] at hk hl
  omega

theorem slots_eq_nil_iff : p.slots name = [] ↔ name ∉ p.names := by
  rw [List.eq_nil_iff_forall_not_mem, List.mem_iff_getElem?]
  constructor
  · rintro h ⟨i, hi⟩
    exact h (i + 1) (mem_slots.mpr ⟨i, rfl, hi⟩)
  · intro h k hk
    obtain ⟨i, -, hi⟩ := mem_slots.mp hk
    exact h ⟨i, hi⟩

end NamedSql.Positional
