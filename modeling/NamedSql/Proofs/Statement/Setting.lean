import NamedSql.Proofs.Placeholder.Slots
import NamedSql.Statement.Basic

/-!
# `Proofs.Statement.Setting` — which value a slot gets

Values are given to a statement by name or by the number of a slot, in any order and as often as one likes. A
name stands for every slot that has it, so what a slot holds in the end is not obvious from the calls. It is
the value of the last call that addresses it.

## Contents
- `Setting`: a call of the chain that gives a value; `Setting.perform`, `Setting.value`, `Setting.Addresses`.
- `lastValue`: the value of the last call that addresses a slot.
- `Setting.write`, what a call does to the slots, and `writeAll`; `writeAll_getElem?` is the result, and
  `slotsAfter_eq` for slots that held nothing before.
-/

namespace NamedSql

variable {σ S : Type} {D : Driver σ}

/-- A call of the chain that gives values to slots. -/
inductive Setting where
  | set (name : String) (value : Value)
  | setNull (name : String) (type : SqlType)
  | setAt (slot : Nat) (value : Value)

namespace Setting

/-- Makes the call. -/
def perform [HasCore D S] (x : Setting) (s : S) : Attempt σ Error S :=
  match x with
  | set name v     => HasCore.set s name v
  | setNull name t => HasCore.setNull s name t
  | setAt slot v   => HasCore.setAt s slot v

/-- The value that a call gives. -/
def value : Setting → Value
  | set _ v     => v
  | setNull _ t => .null t
  | setAt _ v   => v

/-- Whether a call addresses a slot, given the names of the placeholders in their order. -/
def Addresses (names : List String) (slot : Nat) : Setting → Prop
  | set name _     => 1 ≤ slot ∧ names[slot - 1]? = some name
  | setNull name _ => 1 ≤ slot ∧ names[slot - 1]? = some name
  | setAt k _      => k = slot

instance (names : List String) (slot : Nat) (x : Setting) : Decidable (x.Addresses names slot) := by
  cases x <;> unfold Addresses <;> infer_instance

/-- Whether a call keeps to the slots that there are. -/
def InRange (count : Nat) : Setting → Prop
  | set _ _     => True
  | setNull _ _ => True
  | setAt k _   => 1 ≤ k ∧ k ≤ count

end Setting

/-- The value of the last call that addresses a slot, if there is one. -/
def lastValue (names : List String) (xs : List Setting) (slot : Nat) : Option Value :=
  xs.reverse.findSome? fun x => if x.Addresses names slot then some x.value else none

theorem lastValue_cons (names : List String) (x : Setting) (xs : List Setting) (slot : Nat) :
    lastValue names (x :: xs) slot
      = (lastValue names xs slot).or (if x.Addresses names slot then some x.value else none) := by
  unfold lastValue
  rw [List.reverse_cons, List.findSome?_append, List.findSome?_singleton]

/-! ## What calls do to slots -/

/-- Writes a value to some slots, one after the other. -/
def writeSlots (v : Value) (ks : List Nat) (slots : List (Option Value)) : List (Option Value) :=
  ks.foldl (fun slots k => slots.set (k - 1) (some v)) slots

@[simp] theorem length_writeSlots (v : Value) (ks : List Nat) (slots : List (Option Value)) :
    (writeSlots v ks slots).length = slots.length := by
  unfold writeSlots
  induction ks generalizing slots with
  | nil => rfl
  | cons k ks ih => rw [List.foldl_cons, ih, List.length_set]

theorem set_getElem? (v : Value) {k : Nat} (hk : 1 ≤ k) (slots : List (Option Value)) (i : Nat) :
    (slots.set (k - 1) (some v))[i]? = slots[i]?.map fun old => if i + 1 = k then some v else old := by
  by_cases hi : i + 1 = k
  · obtain rfl : i = k - 1 := by omega
    rw [List.getElem?_set_self']
    simp only [hi, if_true]
    rfl
  · have hne : k - 1 ≠ i := by omega
    rw [List.getElem?_set_ne hne]
    simp [hi]

theorem writeSlots_getElem? (v : Value) {ks : List Nat} (hks : ∀ k ∈ ks, 1 ≤ k) (slots : List (Option Value))
    (i : Nat) :
    (writeSlots v ks slots)[i]? = slots[i]?.map fun old => if i + 1 ∈ ks then some v else old := by
  induction ks generalizing slots with
  | nil => simp [writeSlots]
  | cons k ks ih =>
    have hrest := ih (fun k hk => hks k (List.mem_cons_of_mem _ hk)) (slots.set (k - 1) (some v))
    show (writeSlots v ks (slots.set (k - 1) (some v)))[i]? = _
    rw [hrest, set_getElem? v (hks k (List.mem_cons_self ..)), Option.map_map]
    congr 1
    funext old
    by_cases hi : i + 1 = k
    · simp [hi]
    · simp [hi]

/-- What a call does to the slots of a statement. -/
def Setting.write (p : Positional) (x : Setting) (slots : List (Option Value)) : List (Option Value) :=
  match x with
  | set name v     => writeSlots v (p.slots name) slots
  | setNull name t => writeSlots (.null t) (p.slots name) slots
  | setAt k v      => writeSlots v [k] slots

/-- What some calls do, one after the other. -/
def writeAll (p : Positional) (xs : List Setting) (slots : List (Option Value)) : List (Option Value) :=
  xs.foldl (fun slots x => x.write p slots) slots

/-- What the slots hold after some calls, if they held nothing before. -/
abbrev slotsAfter (p : Positional) (xs : List Setting) : List (Option Value) :=
  writeAll p xs (List.replicate p.names.length none)

theorem Setting.write_getElem? (p : Positional) (x : Setting) {count : Nat} (hx : x.InRange count)
    (slots : List (Option Value)) (i : Nat) :
    (x.write p slots)[i]?
      = slots[i]?.map fun old => if x.Addresses p.names (i + 1) then some x.value else old := by
  have hpos : ∀ name, ∀ k ∈ p.slots name, 1 ≤ k := by
    intro name k hk
    exact (Positional.mem_slots_iff.mp hk).1
  cases x with
  | set name v =>
    show (writeSlots v (p.slots name) slots)[i]? = _
    rw [writeSlots_getElem? v (hpos name)]
    simp only [Positional.mem_slots_iff]
    rfl
  | setNull name t =>
    show (writeSlots (.null t) (p.slots name) slots)[i]? = _
    rw [writeSlots_getElem? _ (hpos name)]
    simp only [Positional.mem_slots_iff]
    rfl
  | setAt k v =>
    show (writeSlots v [k] slots)[i]? = _
    rw [writeSlots_getElem? v (by simpa using hx.1)]
    simp only [List.mem_singleton, eq_comm (a := i + 1)]
    rfl

/-- **What a slot holds.** After any calls a slot holds the value of the last one that addresses it, and what it
    held before if none does. -/
theorem writeAll_getElem? (p : Positional) {count : Nat} (xs : List Setting) (hxs : ∀ x ∈ xs, x.InRange count)
    (slots : List (Option Value)) (i : Nat) :
    (writeAll p xs slots)[i]? = slots[i]?.map fun old => (lastValue p.names xs (i + 1)).or old := by
  induction xs generalizing slots with
  | nil => simp [writeAll, lastValue]
  | cons x xs ih =>
    show (writeAll p xs (x.write p slots))[i]? = _
    rw [ih (fun x hx => hxs x (List.mem_cons_of_mem _ hx)), x.write_getElem? p (hxs x (List.mem_cons_self ..)),
      Option.map_map]
    congr 1
    funext old
    rw [lastValue_cons]
    by_cases hx : x.Addresses p.names (i + 1)
    · simp [hx]
    · simp [hx]

@[simp] theorem Setting.length_write (p : Positional) (x : Setting) (slots : List (Option Value)) :
    (x.write p slots).length = slots.length := by
  cases x with
  | set name v     => exact length_writeSlots ..
  | setNull name t => exact length_writeSlots ..
  | setAt k v      => exact length_writeSlots ..

/-- Each slot holds the value set last. -/
theorem slotsAfter_eq {p : Positional} {xs : List Setting} (hxs : ∀ x ∈ xs, x.InRange p.names.length) :
    slotsAfter p xs = (List.range p.names.length).map fun i => lastValue p.names xs (i + 1) := by
  refine List.ext_getElem? fun i => ?_
  rw [writeAll_getElem? p xs hxs, List.getElem?_replicate, List.getElem?_map]
  by_cases hi : i < p.names.length
  · rw [if_pos hi, List.getElem?_range hi]
    simp
  · rw [if_neg hi, List.getElem?_eq_none (by simpa using hi)]
    rfl

end NamedSql
