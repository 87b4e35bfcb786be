import Mathlib.Data.List.Induction
import NamedSql.Proofs.Driver.Reading

/-!
# `Proofs.Driver.Walking` — walking over rows in memory

A cursor over rows in memory stands before the first row, on a row, or behind the last one. Where it stands depends on
nothing but the number of moves that were made: readings and the calls about columns leave it where it is, and a move
behind the last row leads nowhere else. Rows may have any lengths, whatever the number of labels.

## Contents
- **Uses.** `Rows.Use`, and `Rows.leave`, `Rows.after` for the cursor that is left by one use and by any number;
  `after_filter`: only moves and the closing count.
- **Where a cursor stands.** `Rows.place` and `Rows.Stands`, with `Stands.leave` for one use and `stands_after` for any
  number of them.
- **What it shows.** `Rows.shown`, and `Stands.next_fst`, `Stands.get`.
- **All rows.** `Rows.collect_onward`: the loop over the rows from a place on.
- `Rows.after_walks`.
-/

namespace NamedSql.Rows

/-! ## Uses -/

/-- One use of a cursor in memory. -/
inductive Use where
  | next
  | get (column : Nat)
  | columnCount
  | columnLabel (column : Nat)
  | close
deriving DecidableEq

/-- The cursor that a use leaves. -/
def leave (r : Rows) : Use → Rows
  | .next  => r.next.2
  | .close => r.close
  | _      => r

/-- The cursor that some uses leave, one after the other. -/
def after (r : Rows) (us : List Use) : Rows := us.foldl leave r

@[simp] theorem after_cons (r : Rows) (u : Use) (us : List Use) : r.after (u :: us) = (r.leave u).after us := rfl

@[simp] theorem after_concat (r : Rows) (us : List Use) (u : Use) : r.after (us ++ [u]) = (r.after us).leave u := by
  simp [after]

/-- Without the readings and the calls about columns the same cursor is left. -/
theorem after_filter (r : Rows) (us : List Use) :
    r.after (us.filter fun u => u = .next ∨ u = .close) = r.after us := by
  induction us generalizing r with
  | nil => rfl
  | cons u us ih =>
    cases u with
    | next  => simpa using ih (r.leave .next)
    | close => simpa using ih (r.leave .close)
    | _     => simpa [leave] using ih r

/-! ## Where a cursor stands -/

/-- The place of a cursor after some moves: none before the first one, and then the rows in order, but never further
    than one past the end. -/
def place (rows : List (List Value)) : Nat → Option Nat
  | 0     => none
  | k + 1 => some (min k rows.length)

theorem place_bounded {rows : List (List Value)} {k i : Nat} (h : place rows k = some i) : i ≤ rows.length := by
  cases k with
  | zero   => simp [place] at h
  | succ k =>
    have hi : min k rows.length = i := by simpa [place] using h
    omega

/-- The place after one more move. -/
theorem place_succ (rows : List (List Value)) (k : Nat) :
    place rows (k + 1) = some (min ((place rows k).elim 0 (· + 1)) rows.length) := by
  cases k with
  | zero   => simp [place]
  | succ k =>
    have hmin : min (k + 1) rows.length = min (min k rows.length + 1) rows.length := by omega
    simp [place, hmin]

/-- A move leads to a row exactly if there is one of that number. -/
theorem place_lt_iff (rows : List (List Value)) (k : Nat) :
    (place rows k).elim 0 (· + 1) < rows.length ↔ k < rows.length := by
  cases k with
  | zero   => simp [place]
  | succ k =>
    have hmin : min k rows.length + 1 < rows.length ↔ k + 1 < rows.length := by omega
    simpa [place] using hmin

/-- What is known of a cursor after some uses. -/
structure Stands (labels : List String) (rows : List (List Value)) (us : List Use) (r : Rows) : Prop where
  position : .close ∉ us → r.position = place rows (us.count .next)
  bounded  : ∀ i, r.position = some i → i ≤ rows.length
  closed   : r.closed = true ↔ .close ∈ us
  labels   : r.labels = labels
  rows     : r.rows = rows

section
variable {labels : List String} {rows : List (List Value)} {us : List Use} {r : Rows}

theorem stands_ofRows : Stands labels rows [] (ofRows labels rows) where
  position := fun _ => rfl
  bounded  := by simp [ofRows]
  closed   := by simp [ofRows]
  labels   := rfl
  rows     := rfl

namespace Stands

theorem next_of_open (h : Stands labels rows us r) (hopen : .close ∉ us) :
    r.next = (.ok (decide (us.count .next < rows.length)),
      { r with position := place rows (us.count .next + 1) }) := by
  have hflag : r.closed ≠ true := fun hclosed => hopen (h.closed.mp hclosed)
  have hupcoming : r.upcoming = (place rows (us.count .next)).elim 0 (· + 1) := by
    rw [upcoming, h.position hopen]
  rw [next, if_neg hflag, hupcoming, h.rows, place_succ]
  simp only [place_lt_iff]

theorem next_of_closed (h : Stands labels rows us r) (hclosed : .close ∈ us) : r.next = (.error .cursorClosed, r) :=
  if_pos (h.closed.mpr hclosed)

/-- One more use, whatever it is. -/
theorem leave (h : Stands labels rows us r) (u : Use) : Stands labels rows (us ++ [u]) (r.leave u) := by
  -- Only a move of an open cursor changes its place, and only closing it makes a difference to that.
  cases u with
  | next =>
    by_cases hclose : .close ∈ us
    · have hstay : r.leave .next = r := congrArg Prod.snd (h.next_of_closed hclose)
      rw [hstay]
      exact ⟨fun hopen => absurd hclose (by simpa using hopen), h.bounded, by simp [h.closed], h.labels, h.rows⟩
    · have hmove : r.leave .next = { r with position := place rows (us.count .next + 1) } :=
        congrArg Prod.snd (h.next_of_open hclose)
      rw [hmove]
      refine ⟨fun _ => by simp, ?_, by simp [h.closed], h.labels, h.rows⟩
      intro i hi
      exact place_bounded (k := us.count .next + 1) hi
  | close =>
    exact ⟨fun hopen => absurd hopen (by simp), h.bounded, by simp [Rows.leave, close], h.labels, h.rows⟩
  | _ =>
    exact ⟨fun hopen => by simpa [Rows.leave] using h.position (by simpa using hopen), h.bounded,
      by simp [Rows.leave, h.closed], h.labels, h.rows⟩

end Stands

theorem stands_after (labels : List String) (rows : List (List Value)) (us : List Use) :
    Stands labels rows us ((ofRows labels rows).after us) := by
  induction us using List.reverseRecOn with
  | nil => exact stands_ofRows
  | append_singleton us u ih =>
    rw [after_concat]
    exact ih.leave u

/-! ## What it shows -/

/-- What a column shows after some moves: the first move leads to the first row, and columns count from 1. -/
def shown (rows : List (List Value)) (moves c : Nat) : Except Failure Value :=
  if h : 1 ≤ moves ∧ moves ≤ rows.length then
    if h' : 1 ≤ c ∧ c ≤ rows[moves - 1].length then .ok rows[moves - 1][c - 1]
    else .error (.noColumn c)
  else .error .offRow

theorem column_eq (row : List Value) (c : Nat) :
    column row c = if h : 1 ≤ c ∧ c ≤ row.length then .ok row[c - 1] else .error (.noColumn c) := by
  unfold column
  by_cases hc : 1 ≤ c ∧ c ≤ row.length
  · have hlt : c - 1 < row.length := by omega
    have hne : c ≠ 0 := by omega
    simp [hc, hne, hlt]
  · by_cases hzero : c = 0
    · simp [hzero]
    · have hbehind : row[c - 1]? = none := by
        rw [List.getElem?_eq_none_iff]
        omega
      simp [hc, hzero, hbehind]

theorem Stands.get (h : Stands labels rows us r) (hopen : .close ∉ us) (c : Nat) :
    r.get c = shown rows (us.count .next) c := by
  have hflag : r.closed = false := by simpa using fun hclosed => hopen (h.closed.mp hclosed)
  have hposition := h.position hopen
  unfold shown
  by_cases hrow : 1 ≤ us.count .next ∧ us.count .next ≤ rows.length
  · have hlt : us.count .next - 1 < rows.length := by omega
    have hplace : place rows (us.count .next) = some (us.count .next - 1) := by
      obtain ⟨k, hk⟩ : ∃ k, us.count .next = k + 1 := ⟨us.count .next - 1, by omega⟩
      have hmin : min k rows.length = k := by omega
      simp [hk, place, hmin]
    have hcurrent : r.rows[us.count .next - 1]? = some rows[us.count .next - 1] := by
      rw [h.rows]
      exact List.getElem?_eq_getElem hlt
    rw [get_of_row hflag (hposition.trans hplace) hcurrent, column_eq, dif_pos hrow]
  · -- Before the first row there is no place, and behind the last one no row.
    have hnone : (place rows (us.count .next)).bind (rows[·]?) = none := by
      cases hcount : us.count .next with
      | zero   => rfl
      | succ k =>
        have hmin : min k rows.length = rows.length := by omega
        simp [place, hmin]
    rw [dif_neg hrow, Rows.get, current, if_neg (by simp [hflag]), hposition, h.rows, hnone]
    rfl

theorem Stands.get_of_closed (h : Stands labels rows us r) (hclosed : .close ∈ us) (c : Nat) :
    r.get c = .error .cursorClosed := by
  rw [Rows.get, current, if_pos (h.closed.mpr hclosed)]
  rfl

end

/-! ## All rows -/

section
variable {ε α : Type} (labels : List String) (rows : List (List Value))

/-- A cursor after some moves, and nothing else. -/
def moved (k : Nat) : Rows := (ofRows labels rows).after (List.replicate k .next)

theorem moved_succ (k : Nat) : (moved labels rows k).next.2 = moved labels rows (k + 1) := by
  rw [moved, moved, List.replicate_succ', after_concat]
  rfl

theorem next_moved (k : Nat) :
    driver.next.apply (moved labels rows k, ())
      = (.ok (decide (k < rows.length)), moved labels rows (k + 1), ()) := by
  have hstands : Stands labels rows (List.replicate k .next) (moved labels rows k) := stands_after ..
  have hanswer : (moved labels rows k).next.1 = .ok (decide (k < rows.length)) := by
    rw [hstands.next_of_open (by simp [List.mem_replicate])]
    simp
  show ((moved labels rows k).next.1, (moved labels rows k).next.2, ()) = _
  rw [hanswer, moved_succ]

/-- From a place on, each row that is left gets the step once, and in order, until a step fails. -/
theorem collect_onward (wrap : Failure → ε) (step : Nat → Rows → Attempt Unit ε α) (left k : Nat)
    (hleft : k + left = rows.length) :
    (driver.collect wrap step (k + 1) (moved labels rows k, ())).1
      = (List.range' (k + 1) left).mapM fun j => ((step j (moved labels rows j)).apply ()).1 := by
  induction left generalizing k with
  | zero =>
    have hend := next_moved labels rows k
    rw [decide_eq_false (by omega)] at hend
    exact congrArg Prod.fst (driver.collect_of_done hend)
  | succ left ih =>
    have hmove := next_moved labels rows k
    rw [decide_eq_true (by omega)] at hmove
    have hrest := ih (k + 1) (by omega)
    rw [List.range'_succ, List.mapM_cons]
    cases hstep : (step (k + 1) (moved labels rows (k + 1))).apply () with
    | mk result w =>
      cases result with
      | error e => exact congrArg Prod.fst (driver.collect_of_unmapped hmove hstep)
      | ok a    =>
        refine (congrArg Prod.fst (driver.collect_of_row hmove hstep)).trans ?_
        rw [hrest]
        show _ = (List.range' (k + 2) left).mapM _ >>= fun as => pure (a :: as)
        cases (List.range' (k + 1 + 1) left).mapM fun j => ((step j (moved labels rows j)).apply ()).1 with
        | error e => rfl
        | ok as   => rfl

end

/-- **Every row once, and in order.** A cursor over rows in memory is used in any way. As long as it has not been
    closed, the next move leads to a row if there is a row of that number; a column shows its value in the row that the
    moves so far have led to, and there is a failure if there is no such row or no such column in it; the labels are
    those of the beginning. Without the readings and the calls about columns the same cursor is left, and its place is
    never beyond the end. After it was closed all moves and readings fail, whatever else is done. A loop over the rows
    takes its step on the cursor after one move, after two, and so on up to the number of rows, until a step fails. -/
theorem after_walks (labels : List String) (rows : List (List Value)) (us : List Use) :
    let r := (ofRows labels rows).after us
    (.close ∉ us →
        r.next.1 = .ok (decide (us.count .next + 1 ≤ rows.length))
          ∧ (∀ c, r.get c = shown rows (us.count .next) c)
          ∧ r.columnCount = labels.length
          ∧ ∀ c, r.columnLabel c = if c = 0 then none else labels[c - 1]?)
      ∧ (.close ∈ us → r.next = (.error .cursorClosed, r) ∧ ∀ c, r.get c = .error .cursorClosed)
      ∧ r = (ofRows labels rows).after (us.filter fun u => u = .next ∨ u = .close)
      ∧ (∀ i, r.position = some i → i ≤ rows.length)
      ∧ ∀ {ε α : Type} (wrap : Failure → ε) (step : Nat → Rows → Attempt Unit ε α),
          (driver.collect wrap step 1 (ofRows labels rows, ())).1
            = (List.range' 1 rows.length).mapM fun k =>
                ((step k ((ofRows labels rows).after (List.replicate k .next))).apply ()).1 := by
  intro r
  have h : Stands labels rows us r := stands_after labels rows us
  refine ⟨?_, ?_, (after_filter _ us).symm, h.bounded, ?_⟩
  · intro hopen
    have hlabel : ∀ c, r.columnLabel c = if c = 0 then none else labels[c - 1]? := by
      intro c
      rw [columnLabel, h.labels]
    refine ⟨?_, h.get hopen, congrArg List.length h.labels, hlabel⟩
    rw [h.next_of_open hopen]
    rfl
  · intro hclosed
    exact ⟨h.next_of_closed hclosed, h.get_of_closed hclosed⟩
  · intro ε α wrap step
    exact collect_onward labels rows wrap step rows.length 0 (Nat.zero_add _)

/-- Rows of different lengths, with one label for all: behind the last row a move leads nowhere, however often it is
    made. -/
example :
    let r := (ofRows ["n"] [[.int 1, .int 2], []]).after [.next, .get 2, .next, .columnLabel 5, .next, .next]
    r.next.1 = .ok false ∧ r.get 1 = .error .offRow ∧ r.position = some 2 :=
  ⟨rfl, rfl, rfl⟩

end NamedSql.Rows
