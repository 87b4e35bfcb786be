import NamedSql.Proofs.Transcript.Operations

/-!
# `Proofs.Transcript.EveryRow` — a query for all of its rows

## Contents
- `Walk`: some rows, each of them moved to and mapped, with the steps of it (`rowSteps`). `Walk.passing`: a walk, and
  then a pass over the rest, is a pass.
- `Pass`, the ways in which a pass can end. `Pass.passing` and `Passing.pass`, and from them `pass_depicted`.
- `Select.executeForAll_maps_each_row`.
-/

namespace NamedSql

namespace Transcript

variable {σ α : Type} {D : Driver σ}

/-! ## Walking -/

/-- Some rows, one after the other: the cursor is moved to the row, and the mapper makes an `α` of it. The first of
    the rows has the number `k`. -/
inductive Walk (m : Mapper D α) : Nat → D.Cursor → σ → List α → D.Cursor → σ → Prop where
  | start {k : Nat} {c : D.Cursor} {w : σ} : Walk m k c w [] c w
  | row {k : Nat} {c c₁ c' : D.Cursor} {w w₁ w₂ w' : σ} {a : α} {as : List α}
      (hmove : D.next.apply (c, w) = (.ok true, c₁, w₁)) (hmap : (m k c₁).apply w₁ = (.ok a, w₂))
      (hrest : Walk m (k + 1) c₁ w₂ as c' w') : Walk m k c w (a :: as) c' w'

/-- The steps of walking over some rows, the first of which has the number `k`. -/
def rowSteps (k : Nat) : Nat → Transcript
  | 0     => []
  | n + 1 => .moved none :: .mapped k none :: rowSteps (k + 1) n

section
variable {m : Mapper D α} {k : Nat} {c c₁ c' : D.Cursor} {w w₁ w₂ w' : σ} {as : List α}

theorem mapper_of_apply {r : Except (Halt Failure) α} (h : (m k c).apply w = (r, w')) (T : Transcript) :
    (m.transcribed k c).apply (w, T) = (r, w', T ++ [.mapped k (failureOf r)]) := by
  unfold Mapper.transcribed noted
  rw [Attempt.of_apply]
  simp only [h]

/-- What is done with a row: the mapper is asked, and how it answers is entered. -/
def Mapped (m : Mapper D α) (k : Nat) (c : D.Cursor) (w : σ) (r : Except (Halt Failure) α) (w' : σ)
    (steps : Transcript) : Prop :=
  (m k c).apply w = (r, w') ∧ steps = [.mapped k (failureOf r)]

theorem mapped_depicts (m : Mapper D α) : DepictsRow (Mapped m) m.transcribed where
  sound := by
    rintro k c w w' r steps ⟨hmap, rfl⟩ T
    exact mapper_of_apply hmap T
  total k c w := ⟨_, _, _, rfl, rfl⟩

/-- A walk, and a pass over the rows behind it, is a pass. -/
theorem Walk.passing (h : Walk m k c w as c₁ w₁) {r : Except (Halt Failure) (List α)} {steps : Transcript}
    (hrest : Passing .failed (Mapped m) (k + as.length) c₁ w₁ r c' w' steps) :
    Passing .failed (Mapped m) k c w (r.map (as ++ ·)) c' w' (rowSteps k as.length ++ steps) := by
  -- The induction is on the rows that are walked over.
  induction h with
  | start =>
    have hr : r.map (fun as : List α => [] ++ as) = r := by
      cases r with
      | error e => rfl
      | ok as   => rfl
    rw [hr]
    exact hrest
  | @row k c c₁ last w w₁ w₂ w' a as hmove hmap hwalk ih =>
    have hnumber : k + (as.length + 1) = k + 1 + as.length := by omega
    rw [List.length_cons, hnumber] at hrest
    have hmore := Passing.row hmove ⟨hmap, rfl⟩ (ih hrest)
    have hr : (r.map (as ++ ·)).map (a :: ·) = r.map (a :: as ++ ·) := by
      cases r with
      | error e => rfl
      | ok as   => rfl
    rw [hr] at hmore
    exact hmore

/-! ## Passing over all rows -/

/-- The ways in which a pass over the rows of a cursor can end. -/
inductive Pass (m : Mapper D α) (k : Nat) (c : D.Cursor) (w : σ) :
    Except (Halt Failure) (List α) → D.Cursor → σ → Transcript → Prop where
  /-- Behind the rows there is no other. -/
  | exhausted {as : List α} {c₁ c' : D.Cursor} {w₁ w' : σ} (h : Walk m k c w as c₁ w₁)
      (hmove : D.next.apply (c₁, w₁) = (.ok false, c', w')) :
      Pass m k c w (.ok as) c' w' (rowSteps k as.length ++ [.moved none])
  /-- The cursor fails to move. -/
  | unmoved {as : List α} {c₁ c' : D.Cursor} {w₁ w' : σ} {f : Failure} (h : Walk m k c w as c₁ w₁)
      (hmove : D.next.apply (c₁, w₁) = (.error f, c', w')) :
      Pass m k c w (.error (.failed f)) c' w' (rowSteps k as.length ++ [.moved (some f)])
  /-- The mapper does not make anything of a row. -/
  | unmapped {as : List α} {c₁ c' : D.Cursor} {w₁ w₂ w' : σ} {e : Halt Failure} (h : Walk m k c w as c₁ w₁)
      (hmove : D.next.apply (c₁, w₁) = (.ok true, c', w₂))
      (hmap : (m (k + as.length) c').apply w₂ = (.error e, w')) :
      Pass m k c w (.error e) c' w' (rowSteps k as.length ++ [.moved none, .mapped (k + as.length) (some e)])

/-- One row more at the beginning. -/
theorem Pass.row {r : Except (Halt Failure) (List α)} {steps : Transcript} {a : α}
    (hmove : D.next.apply (c, w) = (.ok true, c₁, w₁)) (hmap : (m k c₁).apply w₁ = (.ok a, w₂))
    (h : Pass m (k + 1) c₁ w₂ r c' w' steps) :
    Pass m k c w (r.map (a :: ·)) c' w' (.moved none :: .mapped k none :: steps) := by
  cases h with
  | exhausted hwalk hlast => exact .exhausted (.row hmove hmap hwalk) hlast
  | unmoved hwalk hlast   => exact .unmoved (.row hmove hmap hwalk) hlast
  | @unmapped as _ _ _ _ _ _ hwalk hlast hfail =>
    have hnumber : k + 1 + as.length = k + (a :: as).length := by
      rw [List.length_cons]
      omega
    rw [hnumber] at hfail ⊢
    exact .unmapped (.row hmove hmap hwalk) hlast hfail

theorem Pass.passing {r : Except (Halt Failure) (List α)} {steps : Transcript} (h : Pass m k c w r c' w' steps) :
    Passing .failed (Mapped m) k c w r c' w' steps := by
  cases h with
  | exhausted hwalk hmove     =>
    have hpassing := hwalk.passing (.done hmove)
    simpa [Except.map] using hpassing
  | unmoved hwalk hmove       => exact hwalk.passing (.unmoved hmove)
  | unmapped hwalk hmove hmap => exact hwalk.passing (.failed hmove ⟨hmap, rfl⟩)

theorem Passing.pass {r : Except (Halt Failure) (List α)} {steps : Transcript}
    (h : Passing .failed (Mapped m) k c w r c' w' steps) : Pass m k c w r c' w' steps := by
  induction h with
  | done hmove               => exact .exhausted .start hmove
  | unmoved hmove            => exact .unmoved .start hmove
  | failed hmove hrow        =>
    obtain ⟨hmap, rfl⟩ := hrow
    exact .unmapped .start hmove hmap
  | row hmove hrow hrest ih  =>
    obtain ⟨hmap, rfl⟩ := hrow
    exact ih.row hmove hmap

end

theorem pass_depicted (m : Mapper D α) (k : Nat) :
    Depicts (Pass m k) (.of (D.transcribed.collect .failed m.transcribed k)) where
  sound h := (passing_depicted (mapped_depicts m) .failed k).sound h.passing
  total c w := by
    obtain ⟨r, c', w', steps, h⟩ := (passing_depicted (mapped_depicts m) .failed k).total c w
    exact ⟨r, c', w', steps, h.pass⟩

theorem executeForAll_apply_iff {m : Mapper D α} {c : Core D.transcribed} {d : Option α} {w w' : σ}
    {T T' : Transcript} {r : Except (Halt Error) (List α)} :
    (⟨c, m.transcribed, d⟩ : Select D.transcribed α).executeForAll.apply (w, T) = (r, w', T')
      ↔ ∃ c' steps, T' = T ++ steps
        ∧ Running (Working .failed .executeQuery D.executeQuery (Pass m 1)) c w r c' w' steps :=
  run_apply_iff (withCursor_depicted (pass_depicted m 1) .failed .executeQuery D.executeQuery) _

end Transcript

namespace Select

open Transcript

variable {σ α : Type}

/-- **All rows or none.** A query for all rows opens a cursor, and the mapper is given each of its rows once, from the
    first one on and in their order. If everything goes well the values are the answer, in this order. If a move fails
    or a row does, there is no other, and the failure is told with the text of the query. Everything is released in the
    end. The values are the answer just if the cursor is opened, every row is moved to and mapped, a last move finds no
    other, and everything closes. -/
theorem executeForAll_maps_each_row (D : Driver σ) (m : Mapper D α) (c : Core D.transcribed) (d : Option α) (w : σ)
    (T : Transcript) :
    let q : Select D.transcribed α := ⟨c, m.transcribed, d⟩
    (∀ (r : Except (Halt Error) (List α)) (w' : σ) (T' : Transcript),
      q.executeForAll.apply (w, T) = (r, w', T')
        ↔ ∃ c' steps, T' = T ++ steps
          ∧ Running (Working .failed .executeQuery D.executeQuery (Pass m 1)) c w r c' w' steps)
    ∧ ∀ as : List α, (q.executeForAll.apply (w, T)).1 = .ok as
      ↔ ∃ (cursor last behind : D.Cursor) (h h' : Handle D.transcribed) (w₁ w₂ w₃ w' : σ) (opening closes : Transcript),
        Opening .executeQuery D.executeQuery c.handle w (.ok cursor) h w₁ opening
          ∧ Walk m 1 cursor w₁ as last w₂
          ∧ D.next.apply (last, w₂) = (.ok false, behind, w₃)
          ∧ Releasing { h with cursor := some behind } w₃ (.ok ()) h' w' closes := by
  intro q
  have hrun (r : Except (Halt Error) (List α)) (w' : σ) (T' : Transcript) :
      q.executeForAll.apply (w, T) = (r, w', T')
        ↔ ∃ c' steps, T' = T ++ steps
          ∧ Running (Working .failed .executeQuery D.executeQuery (Pass m 1)) c w r c' w' steps :=
    executeForAll_apply_iff
  refine ⟨hrun, ?_⟩
  intro as
  constructor
  · intro hanswer
    obtain ⟨c', steps, -, hfinish⟩ := (hrun _ _ _).mp (Prod.ext hanswer rfl)
    -- Of all the ways to end only one has an answer.
    cases hfinish with
    | finished hwork hr =>
      cases hwork with
      | worked ho hpass =>
        cases hpass with
        | exhausted hwalk hmove => exact ⟨_, _, _, _, _, _, _, _, _, _, _, ho, hwalk, hmove, hr⟩
  · rintro ⟨cursor, last, behind, h, h', w₁, w₂, w₃, w', opening, closes, ho, hwalk, hmove, hr⟩
    have hfinish := (hrun (.ok as) w' _).mpr ⟨_, _, rfl, .finished (.worked ho (.exhausted hwalk hmove)) hr⟩
    rw [hfinish]

end Select

end NamedSql
