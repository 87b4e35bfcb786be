import NamedSql.Proofs.Driver.SameRow
import NamedSql.Proofs.MySql.Calls
import NamedSql.Proofs.MySql.ColumnTypes
import NamedSql.Proofs.Transcript.FirstRow

/-!
# `Proofs.Transcript.Limit` — the first row is the first of all rows

A query for its first row tells the driver that it wants no more than one, and a driver may do as it likes about that.
As long as the first row stays what it is, it is the first of those that a query for all rows would have answered.

## Contents
- `StartsAlike`, for two cursors; `LimitKeeps`, for a query of which a limit changes nothing else.
- `fetched_of_mapped`: what all rows begin with is the first row.
- `MySql.limitKeeps`: the limit of the MySQL driver is of this kind.
- `Select.execute_takes_the_first_row`.
-/

namespace NamedSql

namespace Transcript

variable {σ τ α : Type} {D : Driver σ}

/-! ## With the limit and without it -/

/-- Two cursors that start alike: neither has a row, or the first rows read alike. -/
inductive StartsAlike (D : Driver σ) : D.Cursor → σ → D.Cursor → σ → Prop where
  | noRow {c c' c₁ c₁' : D.Cursor} {w w' w₁ w₁' : σ} (h : D.next.apply (c, w) = (.ok false, c₁, w₁))
      (h' : D.next.apply (c', w') = (.ok false, c₁', w₁')) : StartsAlike D c w c' w'
  | row {c c' c₁ c₁' : D.Cursor} {w w' w₁ w₁' : σ} {R : σ → σ → Prop} (h : D.next.apply (c, w) = (.ok true, c₁, w₁))
      (h' : D.next.apply (c', w') = (.ok true, c₁', w₁')) (hrow : D.SameRow R c₁ c₁') (hworld : R w₁ w₁') :
      StartsAlike D c w c' w'

/-- A query of which the limit of one row changes nothing but how many rows there are. -/
structure LimitKeeps (m : Mapper D α) (c : Core D.transcribed) (w : σ) : Prop where
  /-- The limit is accepted. -/
  limit : ∃ h w' steps, Limiting c.handle w (.ok ()) h w' steps
  /-- The query can be run with the limit if it can be run without, and its rows start alike. -/
  query {cursor : D.Cursor} {h hlimit : Handle D.transcribed} {w₁ wlimit : σ} {T₁ Tlimit : Transcript} :
    Opening .executeQuery D.executeQuery c.handle w (.ok cursor) h w₁ T₁ →
    Limiting c.handle w (.ok ()) hlimit wlimit Tlimit →
      ∃ cursor' h' w₁' T₁', Opening .executeQuery D.executeQuery hlimit wlimit (.ok cursor') h' w₁' T₁'
        ∧ StartsAlike D cursor w₁ cursor' w₁'
  /-- The release answers the same in both cases. -/
  release {as : List α} {row : Option α} {h h' k k' : Handle D.transcribed} {w₁ w₂ w₁' w₂' : σ}
      {r r' : Except Error Unit} {T T' closes closes' : Transcript} :
    Working .failed .executeQuery D.executeQuery (Pass m 1) c.handle w (.ok as) h w₁ T →
    Fetching m c.handle w (.ok row) h' w₁' T' →
    Releasing h w₁ r k w₂ closes → Releasing h' w₁' r' k' w₂' closes' → r = r'

section
variable {m : Mapper D α}

/-- What all rows begin with is what the first row is. -/
theorem StartsAlike.first {c c' last : D.Cursor} {w w' w₁ : σ} {as : List α} {steps : Transcript}
    (h : StartsAlike D c w c' w') (hm : m.OnlyReads) (hpass : Pass m 1 c w (.ok as) last w₁ steps) :
    ∃ c'' w'' steps', First m c' w' (.ok as.head?) c'' w'' steps' := by
  cases hpass with
  | exhausted hwalk hlast =>
    cases hwalk with
    | start =>
      cases h with
      | noRow hmove hmove'           => exact ⟨_, _, _, .noRow hmove'⟩
      | row hmove hmove' hrow hworld => exact absurd (hmove.symm.trans hlast) (by simp)
    | row hmove₁ hmap hrest =>
      cases h with
      | noRow hmove hmove'           => exact absurd (hmove.symm.trans hmove₁) (by simp)
      | row hmove hmove' hrow hworld =>
        obtain ⟨-, rfl, rfl⟩ : _ ∧ _ = _ ∧ _ = _ := by simpa only [Prod.mk.injEq] using hmove.symm.trans hmove₁
        obtain ⟨w'', hmap'⟩ := hm.answer hrow hworld hmap
        exact ⟨_, w'', _, .mapped hmove' hmap'⟩

theorem fetched_of_mapped {c c' : Core D.transcribed} {w w' : σ} {as : List α} {steps : Transcript} (hm : m.OnlyReads)
    (hkeeps : LimitKeeps m c w)
    (hrun : Running (Working .failed .executeQuery D.executeQuery (Pass m 1)) c w (.ok as) c' w' steps) :
    ∃ c'' w'' steps', Running (Fetching m) c w (.ok as.head?) c'' w'' steps' := by
  cases hrun with
  | finished hwork hr =>
    cases hwork with
    | worked ho hpass =>
      obtain ⟨hlimit, wlimit, Tlimit, haccepted⟩ := hkeeps.limit
      obtain ⟨cursor', h', w₁', T₁', ho', halike⟩ := hkeeps.query ho haccepted
      obtain ⟨c'', w'', Tfirst, hfirst⟩ := halike.first hm hpass
      have hfetch : Fetching m c.handle w (.ok as.head?) _ w'' _ := .both haccepted (.worked ho' hfirst)
      -- The release could still fail in one case only, and then the answer would be its failure.
      obtain ⟨r', k', w₂', closes', hr'⟩ := cleanup_depicted.total _ w''
      obtain rfl := hkeeps.release (.worked ho hpass) hfetch hr hr'
      exact ⟨_, _, _, .finished hfetch hr'⟩

end

end Transcript

/-! ## A driver that keeps to the limit -/

namespace MySql

open Transcript

variable {τ α : Type}

theorem startsAlike_ofRows (rows : List (List Cell)) (p : Pooled τ) :
    StartsAlike (driver τ) (.result (.ofRows rows)) p (.result (.ofRows rows.head?.toList)) p := by
  cases rows with
  | nil           => exact .noRow rfl rfl
  | cons row rows =>
    have hrow : (driver τ).SameRow Eq (.result ⟨row :: rows, some 0, false⟩) (.result ⟨[row], some 0, false⟩) := by
      refine ⟨rfl, fun _ => rfl, ?_⟩
      rintro column w _ rfl
      exact ⟨rfl, rfl⟩
    exact .row rfl rfl hrow rfl

section
variable {st : Prepared τ} {p : Pooled τ}

theorem query_of_arguments {vs : List Value} (h : st.arguments = .ok vs) :
    (opening Cursor.result Prepared.executeQuery).apply (st, p)
      = (((st.fetch vs).apply p).1.map fun rows => .result (.ofRows rows), st, ((st.fetch vs).apply p).2) := by
  rw [Prepared.opening_apply, Prepared.executeQuery, Attempt.of_apply]
  simp only [h]
  rcases (st.fetch vs).apply p with ⟨f | rows, p'⟩
  · rfl
  · rfl

theorem query_of_noArguments {f : Failure} (h : st.arguments = .error f) :
    (opening Cursor.result Prepared.executeQuery).apply (st, p) = (.error f, st, p) := by
  rw [Prepared.opening_apply, Prepared.executeQuery, Attempt.of_apply]
  simp only [h]
  rfl

theorem fetch_of_noLimit (h : st.limit = none) (vs : List Value) :
    (st.fetch vs).apply p = (((st.run vs).apply p).1.map Response.rows, ((st.run vs).apply p).2) := by
  have hne : st.limit ≠ some 0 := by simp [h]
  rw [Prepared.fetch_of_ne_zero hne, h, Attempt.map_apply]
  rfl

theorem fetch_of_one (vs : List Value) :
    (Prepared.fetch { st with limit := some 1 } vs).apply p
      = (((st.run vs).apply p).1.map fun reply => reply.rows.head?.toList, ((st.run vs).apply p).2) := by
  have hne : ({ st with limit := some 1 } : Prepared τ).limit ≠ some 0 := by simp
  rw [Prepared.fetch_of_ne_zero hne, Attempt.map_apply]
  simp only [Prepared.cut, List.take_one]
  rfl

/-- The server is asked for the same rows; with the limit only the first of them is kept. -/
theorem query_limited {st' : Prepared τ} {p' : Pooled τ} {cursor : Cursor} (hlimit : st.limit = none)
    (h : (opening Cursor.result Prepared.executeQuery).apply (st, p) = (.ok cursor, st', p')) :
    ∃ rows, cursor = .result (.ofRows rows)
      ∧ (opening Cursor.result Prepared.executeQuery).apply ({ st with limit := some 1 }, p)
        = (.ok (.result (.ofRows rows.head?.toList)), { st with limit := some 1 }, p') := by
  match hargs : st.arguments with
  | .error f =>
    rw [query_of_noArguments hargs] at h
    exact absurd h (by simp)
  | .ok vs   =>
    have hargs' : Prepared.arguments { st with limit := some 1 } = .ok vs := hargs
    rw [query_of_arguments hargs, fetch_of_noLimit hlimit] at h
    rw [query_of_arguments hargs', fetch_of_one]
    match hrun : (st.run vs).apply p with
    | (.error f, p₁)  =>
      rw [hrun] at h
      exact absurd h (by simp [Except.map])
    | (.ok reply, p₁) =>
      rw [hrun] at h
      simp only [Except.map, Prod.mk.injEq, Except.ok.injEq] at h
      obtain ⟨rfl, -, rfl⟩ := h
      exact ⟨reply.rows, rfl, rfl⟩

end

/-! No close of this driver fails, and that of a cursor is no concern of the world. -/

theorem closing_ok {ο : Type} {close : Attempt (ο × Pooled τ) Failure Unit} {kind : Resource} {o : Option ο}
    {p p' : Pooled τ} {r : Except Error Unit} {steps : Transcript} (hok : ∀ s, (close.apply s).1 = .ok ())
    (h : Closing kind close o p r p' steps) : r = .ok () := by
  cases h with
  | nothing     => rfl
  | closed h    => rfl
  | stuck hcall =>
    have hanswer := congrArg Prod.fst hcall
    exact absurd ((hok _).symm.trans hanswer) (by simp)

theorem releasing_ok {h h' : Handle (driver τ).transcribed} {p p' : Pooled τ} {r : Except Error Unit}
    {steps : Transcript} (hr : Releasing h p r h' p' steps) : r = .ok () := by
  obtain ⟨hcursor, hstatement, hconnection⟩ := hr
  rw [closing_ok (fun _ => rfl) hcursor, closing_ok (fun _ => rfl) hstatement, closing_ok (fun _ => rfl) hconnection]
  rfl

theorem closing_cursor {c : Option Cursor} {p p' : Pooled τ} {r : Except Error Unit} {steps : Transcript}
    (h : Closing .cursor (driver τ).closeCursor c p r p' steps) : p' = p := by
  cases h with
  | nothing      => rfl
  | closed hcall => exact (congrArg (fun x => x.2.2) hcall).symm
  | stuck hcall  => exact (congrArg (fun x => x.2.2) hcall).symm

/-- A statement without a limit is one of which the limit of one row changes nothing else. -/
theorem limitKeeps (m : Mapper (driver τ) α) {c : Core (driver τ).transcribed} {st : Prepared τ}
    (hst : c.handle.statement = some st) (hlimit : st.limit = none) (p : Pooled τ) : LimitKeeps m c p where
  limit := by
    obtain ⟨text, positional, k, s, cursor⟩ := c
    obtain rfl : s = some st := hst
    exact ⟨_, _, _, .answered rfl⟩
  query := by
    obtain ⟨text, positional, k, s, before⟩ := c
    obtain rfl : s = some st := hst
    intro cursor h hafter p₁ pafter T₁ Tafter ho hl
    cases hl with
    | answered hcall =>
      -- The limit is kept in the statement: the server has not heard of it yet, and is asked as before.
      obtain rfl : { st with limit := some 1 } = _ := congrArg (fun x => x.2.1) hcall
      obtain rfl : p = _ := congrArg (fun x => x.2.2) hcall
      cases ho with
      | opened hc hquery =>
        obtain rfl := closing_cursor hc
        obtain ⟨rows, rfl, hlimited⟩ := query_limited hlimit hquery
        exact ⟨_, _, _, _, .opened hc hlimited, startsAlike_ofRows rows _⟩
  release _ _ hr hr' := by rw [releasing_ok hr, releasing_ok hr']

end MySql

/-! ## The first of all rows -/

namespace Select

open Transcript

variable {σ α : Type}

/-- **The first row is the first of all rows.** Where the limit changes nothing but how many rows there are, a query
    that would answer some rows answers the first of them, and the default if there are none. Whatever the limit does,
    no more than one row is looked at: the cursor that is opened is moved once, the mapper is given one row or none,
    and the default stands in only for a row that there is not. -/
theorem execute_takes_the_first_row (D : Driver σ) (m : Mapper D α) (c : Core D.transcribed) (d : Option α) (w : σ)
    (T : Transcript) :
    let q : Select D.transcribed α := ⟨c, m.transcribed, d⟩
    (m.OnlyReads → LimitKeeps m c w → ∀ as : List α,
      (q.executeForAll.apply (w, T)).1 = .ok as → (q.execute.apply (w, T)).1 = .ok (as.head?.or d))
    ∧ (∀ (r : Except (Halt Error) (Option α)) (w' : σ) (T' : Transcript),
      q.execute.apply (w, T) = (r, w', T')
        ↔ ∃ row c' steps, r = orDefault d row ∧ T' = T ++ steps ∧ Running (Fetching m) c w row c' w' steps)
    ∧ ∃ steps, (q.execute.apply (w, T)).2.2 = T ++ steps ∧ OneRow steps := by
  intro q
  refine ⟨?first, fun r w' T' => execute_apply_iff, ?once⟩
  case first =>
    intro hm hkeeps as hall
    have hend : q.executeForAll.apply (w, T)
        = (.ok as, (q.executeForAll.apply (w, T)).2.1, (q.executeForAll.apply (w, T)).2.2) := Prod.ext hall rfl
    obtain ⟨c', steps, -, hrun⟩ := executeForAll_apply_iff.mp hend
    obtain ⟨c'', w'', steps', hfetch⟩ := fetched_of_mapped hm hkeeps hrun
    have hanswer : q.execute.apply (w, T) = (orDefault d (.ok as.head?), w'', T ++ steps') :=
      execute_apply_iff.mpr ⟨.ok as.head?, c'', steps', rfl, rfl, hfetch⟩
    rw [hanswer, orDefault_eq_map]
    rfl
  case once =>
    obtain ⟨row, c', steps, -, hlog, hrun⟩ := execute_apply_iff.mp (rfl : q.execute.apply (w, T) = _)
    exact ⟨steps, hlog, Running.oneRow hrun⟩

end Select

namespace MySql

open Transcript

/-- Two rows, with nothing in them. -/
def twoRows : List (List Cell) := [[.null ⟨"n", "INT"⟩], [.null ⟨"n", "INT"⟩]]

/-- A server that answers two rows to every query. -/
def twoRowServer : Server Unit where
  acquire   := return ()
  prepare _ := return 0
  run _ _   := return .resultSet twoRows

/-- A mapper that answers the number of a row, and nothing for the first one. -/
def laterRows : Mapper (driver Unit) (Option Nat) :=
  (Mapper.failingAt 0 "no row").map fun n => if n = 1 then none else some n

/-- A query over two rows, with a default. -/
def fromTwoRows : Select (driver Unit).transcribed (Option Nat) :=
  let session : Session Unit := ⟨twoRowServer, 0⟩
  ⟨⟨"select n from t", ⟨"select n from t", []⟩, some session, some ⟨session, "select n from t", .none, [], none, [], []⟩,
    none⟩, laterRows.transcribed, some (some 5)⟩

/-- Nothing is made of the first row, and that is the answer: the default is for no row. -/
theorem execute_takes_the_first_row_fromTwoRows :
    (fromTwoRows.executeForAll.apply (.ofFar (), [])).1 = .ok [none, some 2]
      ∧ (fromTwoRows.execute.apply (.ofFar (), [])).1 = .ok (some none) := by
  obtain ⟨hfirst, -⟩ := Select.execute_takes_the_first_row (driver Unit) laterRows fromTwoRows.core (some (some 5))
    (.ofFar ()) []
  have hwalk : Walk laterRows 1 (.result (.ofRows twoRows)) (.ofFar ()) [none, some 2]
      (.result ⟨twoRows, some 1, false⟩) (.ofFar ()) := .row rfl rfl (.row rfl rfl .start)
  obtain ⟨h, p, steps, hwork⟩ : ∃ h p steps, Working .failed .executeQuery (driver Unit).executeQuery
      (Pass laterRows 1) fromTwoRows.core.handle (.ofFar ()) (.ok [none, some 2]) h p steps :=
    ⟨_, _, _, .worked (.opened .nothing rfl) (.exhausted hwalk rfl)⟩
  obtain ⟨r, h', p', closes, hr⟩ := cleanup_depicted.total h p
  obtain rfl := releasing_ok hr
  have hall : (fromTwoRows.executeForAll.apply (.ofFar (), [])).1 = .ok [none, some 2] :=
    congrArg Prod.fst (executeForAll_apply_iff.mpr ⟨_, _, rfl, .finished hwork hr⟩)
  refine ⟨hall, hfirst ?_ (limitKeeps laterRows rfl rfl _) _ hall⟩
  exact Mapper.map_onlyReads (Mapper.failingAt_onlyReads 0 "no row") _

end MySql

end NamedSql
