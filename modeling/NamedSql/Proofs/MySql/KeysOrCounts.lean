import Mathlib.Algebra.Group.Int.Defs
import Mathlib.Algebra.Group.Nat.Defs
import NamedSql.Proofs.Driver.Reading
import NamedSql.Proofs.Ledger.Released
import NamedSql.Proofs.MySql.Calls

/-!
# `Proofs.MySql.KeysOrCounts` — the numbers that an update answers

The server tells how many rows an update has affected and which key it has generated, as unsigned numbers. An update
answers signed ones. A key that has no place among them is no key, and a count that has none is told as the greatest
one; whether the answer is a key or a count is decided after that.

## Contents
- `Value.read_bigInt`: reading a key that is a key.
- **Numbers.** `keyNumber`, `countNumber`: what the numbers of the server become, with `insertedKey_toInt` and
  `affectedRows_toInt`.
- **Running.** `Answers`: what a server says to some entries that it is sent one after the other, and what becomes of
  a statement that is run then (`runEntries_of_answers`, `executeUpdate_of_answers`, `executeBatch_of_answers`).
- **Keys.** `firstKey_keys`, `allKeys_keys`: reading the keys that a statement hands out; `withKeys_fst`.
- **Updates.** `Armed`, what an update is before it is run, and its answers: `Armed.execute`,
  `Armed.executeReturningKey`, `Armed.executeBatch`.
- **Step and run.** An update is ready when it is prepared (`prepare_armed`, `begun_armed`), each call that succeeds
  keeps it so (`callsKeep_armed`, `perform_armed`), and so do any number of them (`performAll_armed`).
- `key_or_count`.
-/

namespace NamedSql

variable {σ τ α M S : Type}

theorem Value.read_bigInt (n : Int64) : Value.read .bigInt (.bigInt n) = .ok (some n) := by
  have hrange : Value.inRange Int64.minValue.toInt Int64.maxValue.toInt n.toInt = true := by
    rw [Value.inRange, Bool.and_eq_true, decide_eq_true_eq, decide_eq_true_eq]
    exact ⟨Int64.minValue_le_toInt n, Int64.toInt_le n⟩
  show (Value.readWhole .bigInt _ _ (.bigInt n)).map (·.map Int64.ofInt) = _
  have hwhole : Value.readWhole .bigInt Int64.minValue.toInt Int64.maxValue.toInt (.bigInt n)
      = .ok (some n.toInt) := if_pos hrange
  rw [hwhole]
  exact congrArg (fun m => Except.ok (some m)) (Int64.ofInt_toInt n)

/-- Prepares an update, wherever its connection comes from. -/
def Update.begun {D : Driver σ} (o : Life.Origin D) (sql : String) : Attempt σ Error (Update D) :=
  match o with
  | .registry r name => named r name sql
  | .connection k    => onConnection k sql

namespace MySql

/-! ## Numbers -/

/-- The key that an answer of the server tells: zero is none, and neither is what has no place among the signed
    numbers. -/
def keyNumber (lastId : UInt64) : Option Int :=
  if 1 ≤ lastId.toNat ∧ lastId.toNat ≤ 2 ^ 63 - 1 then some lastId.toNat else none

/-- The count that an answer of the server tells, or the greatest signed number if it is beyond that. -/
def countNumber (affected : UInt64) : Int := min affected.toNat (2 ^ 63 - 1)

theorem affectedRows_toInt (a : UInt64) : (affectedRows a).toInt = countNumber a := by
  unfold affectedRows countNumber
  rw [Int64.toInt_ofInt_of_le]
  · rfl
  · omega
  · omega

theorem insertedKey_toInt (k : UInt64) : (insertedKey .generated k).map Int64.toInt = keyNumber k := by
  unfold insertedKey keyNumber
  by_cases hzero : k = 0
  · subst hzero
    rfl
  · have hpos : 1 ≤ k.toNat := Nat.one_le_iff_ne_zero.mpr fun h => hzero (UInt64.toNat.inj h)
    rw [if_neg (by simp [hzero])]
    by_cases hfits : k.toNat < 0x8000000000000000
    · rw [if_pos hfits, if_pos ⟨hpos, by omega⟩, Option.map_some, Int64.toInt_ofInt_of_le (by omega) (by omega)]
    · rw [if_neg hfits, if_neg (by omega)]
      rfl

/-! ## Running -/

/-- What a server answers to some entries that it is sent one after the other, if it runs all of them: what each of
    them has affected, and which key it has generated. -/
inductive Answers (server : Server τ) (sql : String) : List (List Value) → τ → List (UInt64 × UInt64) → Prop where
  | nil {far : τ} : Answers server sql [] far []
  | cons {vs : List Value} {entries : List (List Value)} {far far' : τ} {reply : Response} {e : UInt64 × UInt64}
      {effects : List (UInt64 × UInt64)} (hrun : (server.run sql (vs.map Argument.ofValue)).apply far = (.ok reply, far'))
      (heffect : reply.effect = e) (hrest : Answers server sql entries far' effects) :
      Answers server sql (vs :: entries) far (e :: effects)

section
variable {st : Prepared τ} {p : Pooled τ} (hopen : st.session.loan ∉ p.returned)
include hopen

theorem run_of_answer {vs : List Value} {reply : Response} {far' : τ}
    (hrun : (st.session.server.run st.sql (vs.map Argument.ofValue)).apply p.far = (.ok reply, far')) :
    (st.run vs).apply p = (.ok reply, { p with far := far' }) := by
  rw [Prepared.run, Attempt.reword_apply, Session.run, Pooled.onLoan, Attempt.of_apply, if_neg hopen, Pooled.onFar,
    Attempt.within_apply, hrun]
  rfl

theorem runEntries_of_answers {entries : List (List Value)} {effects : List (UInt64 × UInt64)}
    (h : Answers st.session.server st.sql entries p.far effects) :
    ∃ far', (st.runEntries entries).apply p = (.ok effects, { p with far := far' }) := by
  generalize hfar : p.far = far at h
  induction h generalizing p with
  | nil => exact ⟨p.far, rfl⟩
  | @cons vs entries far far' reply e effects hrun heffect hrest ih =>
    subst hfar heffect
    have hfirst := run_of_answer hopen hrun
    obtain ⟨far'', hend⟩ := ih (p := { p with far := far' }) hopen rfl
    refine ⟨far'', ?_⟩
    rw [Prepared.runEntries, Attempt.bind_apply, hfirst]
    simp only [Attempt.bind_apply]
    rw [hend]
    rfl

theorem executeUpdate_of_answers (hkeys : st.keys = .generated) {vs : List Value} {a k : UInt64}
    (hvs : st.arguments = .ok vs) (h : Answers st.session.server st.sql [vs] p.far [(a, k)]) :
    ∃ far', Prepared.executeUpdate.apply (st, p)
      = (.ok (affectedRows a), { st with generated := (insertedKey .generated k).toList },
          { p with far := far' }) := by
  cases h with
  | @cons vs entries far far' reply e effects hrun heffect hrest =>
    have hran := run_of_answer hopen hrun
    refine ⟨far', ?_⟩
    rw [Prepared.executeUpdate, Attempt.of_apply]
    simp only [hvs, hran, heffect, hkeys]

theorem executeBatch_of_answers (hkeys : st.keys = .generated) {effects : List (UInt64 × UInt64)}
    (h : Answers st.session.server st.sql st.batch p.far effects) :
    ∃ far', Prepared.executeBatch.apply (st, p)
      = (.ok (effects.map fun e => affectedRows e.1),
          { st with batch := [], generated := effects.filterMap fun e => insertedKey .generated e.2 },
          { p with far := far' }) := by
  obtain ⟨far', hran⟩ := runEntries_of_answers hopen h
  refine ⟨far', ?_⟩
  rw [Prepared.executeBatch, Attempt.of_apply]
  simp only [hran, hkeys]

end

/-! ## Reading keys -/

theorem key_of_row {r : Rows} {g : Int64} (h : r.get 1 = .ok (.bigInt g)) (p : Pooled τ) :
    (Update.key (D := driver τ) (.keys r)).apply p = (.ok (some g), p) := by
  have hget : ((driver τ).get (.keys r) 1).apply p = (.ok (.bigInt g), p) := congrArg (fun v => (v, p)) h
  have hread : (Target.typed .bigInt).read (.bigInt g) = .ok (some g) := Value.read_bigInt g
  exact (driver τ).getAs_of_ok hget hread

section
variable {r : Rows} (done : List Int64) {rest : List Int64} (hopen : r.closed = false)
  (hposition : r.upcoming = done.length)
include hopen hposition

theorem next_of_key {g : Int64} (hrows : r.rows = (done ++ g :: rest).map fun k => [.bigInt k]) (p : Pooled τ) :
    (driver τ).next.apply (.keys r, p) = (.ok true, .keys { r with position := some done.length }, p)
      ∧ ({ r with position := some done.length } : Rows).get 1 = .ok (.bigInt g) := by
  have hlt : r.upcoming < r.rows.length := by
    rw [hposition, hrows, List.length_map, List.length_append, List.length_cons]
    omega
  have hrow : r.rows[done.length]? = some [.bigInt g] := by
    rw [hrows, List.getElem?_map, List.getElem?_append_right (Nat.le_refl _), Nat.sub_self]
    rfl
  have hnext := Rows.next_of_lt hopen hlt
  rw [hposition] at hnext
  refine ⟨?_, ?_⟩
  · exact congrArg (fun x : Except Failure Bool × Rows => (x.1, Cursor.keys x.2, p)) hnext
  · exact Rows.get_of_row (r := { r with position := some done.length }) hopen rfl hrow 1

theorem next_of_noKey (hrows : r.rows = done.map fun k => [.bigInt k]) (p : Pooled τ) :
    (driver τ).next.apply (.keys r, p) = (.ok false, .keys { r with position := some r.rows.length }, p) := by
  have hle : r.rows.length ≤ r.upcoming := by
    rw [hposition, hrows, List.length_map]
  have hnext := Rows.next_of_le hopen hle
  exact congrArg (fun x : Except Failure Bool × Rows => (x.1, Cursor.keys x.2, p)) hnext

/-- What is collected are the keys that are still ahead. -/
theorem collect_keys (hrows : r.rows = (done ++ rest).map fun k => [.bigInt k]) (n : Nat) (p : Pooled τ) :
    ((driver τ).collect id (fun _ c => Update.key (D := driver τ) c) n (.keys r, p)).1 = .ok (rest.map some) := by
  induction rest generalizing done r n with
  | nil =>
    rw [List.append_nil] at hrows
    rw [(driver τ).collect_of_done (next_of_noKey done hopen hposition hrows p)]
    rfl
  | cons g rest ih =>
    obtain ⟨hnext, hget⟩ := next_of_key done hopen hposition hrows p
    have hposition' : ({ r with position := some done.length } : Rows).upcoming = (done ++ [g]).length := by
      rw [List.length_append]
      rfl
    have hrows' : r.rows = (done ++ [g] ++ rest).map fun k => [.bigInt k] := by
      rw [List.append_assoc]
      exact hrows
    have hrest := ih (done ++ [g]) (r := { r with position := some done.length }) hopen hposition' hrows' (n + 1)
    rw [(driver τ).collect_of_row hnext (key_of_row hget p)]
    simp only
    rw [hrest]
    rfl

end

theorem firstKey_keys (ks : List Int64) (p : Pooled τ) :
    ((Update.firstKey (D := driver τ)).apply (.keys (Rows.ofKeys ks), p)).1 = .ok ks.head? := by
  unfold Update.firstKey
  cases ks with
  | nil       =>
    rw [Attempt.bind_apply, next_of_noKey [] rfl rfl rfl]
    rfl
  | cons g ks =>
    have hrows : (Rows.ofKeys (g :: ks)).rows = ([] ++ g :: ks).map fun k => [.bigInt k] := rfl
    obtain ⟨hnext, hget⟩ := next_of_key [] rfl rfl hrows p
    rw [Attempt.bind_apply, hnext]
    simp only [if_true, Attempt.of_apply]
    exact congrArg Prod.fst (key_of_row hget p)

theorem allKeys_keys (ks : List Int64) (p : Pooled τ) :
    ((Update.allKeys (D := driver τ)).apply (.keys (Rows.ofKeys ks), p)).1 = .ok ks := by
  have hrows : (Rows.ofKeys ks).rows = ([] ++ ks).map fun k => [.bigInt k] := rfl
  have hcollect := collect_keys [] rfl rfl hrows 1 p
  unfold Update.allKeys
  rw [Attempt.bind_apply, Attempt.of_apply]
  match hend : (driver τ).collect id (fun _ c => Update.key (D := driver τ) c) 1 (.keys (Rows.ofKeys ks), p) with
  | (.error f, s) =>
    rw [hend] at hcollect
    exact absurd hcollect (by simp)
  | (.ok as, s)   =>
    rw [hend] at hcollect
    obtain rfl : as = ks.map some := Except.ok.inj hcollect
    simp only [Attempt.pure_apply]
    show (.ok ((ks.map some).filterMap id) : Except Failure (List Int64)) = .ok ks
    rw [List.filterMap_map]
    simp

/-! ## Running an update -/

/-- Nothing that is closed here fails to close. -/
theorem cleanup_ok (s : Handle (driver τ) × Pooled τ) : (Handle.cleanup.apply s).1 = .ok () := by
  obtain ⟨⟨k, st, c⟩, p⟩ := s
  cases c with
  | none   => cases st with
    | none   => cases k <;> rfl
    | some _ => cases k <;> rfl
  | some _ => cases st with
    | none   => cases k <;> rfl
    | some _ => cases k <;> rfl

theorem run_of_ok {u : Update (driver τ)} {op : Attempt (Handle (driver τ) × Pooled τ) Failure α} {p : Pooled τ}
    {a : α} (h : (op.apply (u.core.handle, p)).1 = .ok a) : ((u.run op).apply p).1 = .ok a := by
  show settle id ((op.apply (u.core.handle, p)).1.mapError (.execute u.core.text)) (Handle.cleanup.apply _).1 = _
  rw [h, cleanup_ok]
  rfl

/-- Work on the keys is work on those that the last execution has generated. -/
theorem withKeys_fst {st : Prepared τ} (work : Attempt (Cursor × Pooled τ) Failure α)
    (k : Option (Session τ)) (p : Pooled τ) :
    ((Handle.withKeys (D := driver τ) id work).apply (⟨k, some st, none⟩, p)).1
      = (work.apply (.keys (Rows.ofKeys st.generated), p)).1 := by
  unfold Handle.withKeys
  rw [Handle.withCursor_of_none (D := driver τ) id _ work rfl]
  rfl

/-- The first key, where there is at most one. -/
theorem withKeys_firstKey (st : Prepared τ) (key : Option Int64) (k : Option (Session τ)) (p : Pooled τ) :
    ((Handle.withKeys (D := driver τ) id Update.firstKey).apply
        (⟨k, some { st with generated := key.toList }, none⟩, p)).1
      = .ok key := by
  refine (withKeys_fst _ _ _).trans ((firstKey_keys _ _).trans ?_)
  rw [Option.head?_toList]

/-- An update before it is run: it was prepared over a session that is still open, with keys asked for. -/
structure Armed (sql : String) (st : Prepared τ) (s : Core (driver τ) × Pooled τ) : Prop where
  text   : s.1.text = sql
  handle : s.1.handle = ⟨some st.session, some st, none⟩
  sql    : st.sql = (Positional.ofNamed sql).text
  keys   : st.keys = .generated
  opened : st.session.loan ∉ s.2.returned

namespace Armed

variable {sql : String} {st : Prepared τ} {u : Update (driver τ)} {p : Pooled τ} (h : Armed sql st (u.core, p))
include h

theorem call_executeUpdate {vs : List Value} {a k : UInt64} (hvs : st.arguments = .ok vs)
    (hanswers : Answers st.session.server (Positional.ofNamed sql).text [vs] p.far [(a, k)]) :
    ∃ far', (Handle.call (driver τ).executeUpdate).apply (u.core.handle, p)
      = (.ok (affectedRows a),
          ⟨some st.session, some { st with generated := (insertedKey .generated k).toList }, none⟩,
          { p with far := far' }) := by
  rw [← h.sql] at hanswers
  obtain ⟨far', hrun⟩ := executeUpdate_of_answers h.opened h.keys hvs hanswers
  rw [h.handle]
  exact ⟨far', Handle.call_of_apply (D := driver τ) hrun _ none⟩

theorem call_executeBatch {effects : List (UInt64 × UInt64)}
    (hanswers : Answers st.session.server (Positional.ofNamed sql).text st.batch p.far effects) :
    ∃ far', (Handle.call (driver τ).executeBatch).apply (u.core.handle, p)
      = (.ok (effects.map fun e => affectedRows e.1),
          ⟨some st.session,
            some { st with batch := [], generated := effects.filterMap fun e => insertedKey .generated e.2 }, none⟩,
          { p with far := far' }) := by
  rw [← h.sql] at hanswers
  obtain ⟨far', hrun⟩ := executeBatch_of_answers h.opened h.keys hanswers
  rw [h.handle]
  exact ⟨far', Handle.call_of_apply (D := driver τ) hrun _ none⟩

theorem execute {vs : List Value} {a k : UInt64} (hvs : st.arguments = .ok vs)
    (hanswers : Answers st.session.server (Positional.ofNamed sql).text [vs] p.far [(a, k)]) :
    (u.execute.apply p).1 = .ok ((insertedKey .generated k).getD (affectedRows a)) := by
  obtain ⟨far', hcall⟩ := h.call_executeUpdate hvs hanswers
  refine run_of_ok ((Attempt.bind_fst_of_ok hcall _).trans ((Attempt.bind_pure_fst _ _ _).trans ?_))
  exact congrArg (Except.map _) (withKeys_firstKey st _ _ _)

theorem executeReturningKey {vs : List Value} {a k : UInt64} (hvs : st.arguments = .ok vs)
    (hanswers : Answers st.session.server (Positional.ofNamed sql).text [vs] p.far [(a, k)]) :
    (u.executeReturningKey.apply p).1
      = match insertedKey .generated k with
        | some n => .ok n
        | none   => .error (.noGeneratedKey sql) := by
  obtain ⟨far', hcall⟩ := h.call_executeUpdate hvs hanswers
  have hrun := run_of_ok ((Attempt.bind_fst_of_ok hcall fun _ => Handle.withKeys id Update.firstKey).trans
    (withKeys_firstKey st _ _ _))
  -- Whether there is a key is looked at when the run is over.
  obtain ⟨p', hend⟩ : ∃ p', (u.run _).apply p = (.ok (insertedKey .generated k), p') := ⟨_, Prod.ext hrun rfl⟩
  unfold Update.executeReturningKey
  rw [Attempt.bind_fst_of_ok hend, ← h.text]
  match insertedKey .generated k with
  | some n => rfl
  | none   => rfl

theorem executeBatch {effects : List (UInt64 × UInt64)}
    (hanswers : Answers st.session.server (Positional.ofNamed sql).text st.batch p.far effects) :
    (u.executeBatch.apply p).1
      = .ok (if (effects.filterMap fun e => insertedKey .generated e.2).isEmpty
          then effects.map fun e => affectedRows e.1
          else effects.filterMap fun e => insertedKey .generated e.2) := by
  obtain ⟨far', hcall⟩ := h.call_executeBatch hanswers
  refine run_of_ok ((Attempt.bind_fst_of_ok hcall _).trans ((Attempt.bind_pure_fst _ _ _).trans ?_))
  exact congrArg (Except.map _) ((withKeys_fst _ _ _).trans (allKeys_keys _ _))

end Armed

/-! ## Steps and runs -/

/-- A statement that a session has prepared is fresh, and the session is open. -/
theorem Session.prepare_of_ok {sql : String} {p p' : Pooled τ} {s s' : Session τ} {keys : KeyCapture}
    {st : Prepared τ} (h : (Session.prepare sql keys).apply (s, p) = (.ok st, s', p')) :
    s' = s ∧ s.loan ∉ p'.returned ∧ ∃ count, st = Prepared.fresh s sql keys count := by
  have hopen : s.loan ∉ p.returned := by
    intro hclosed
    have hend := Session.prepare_apply sql keys s p
    rw [Pooled.onLoan_returned hclosed] at hend
    exact absurd (h.symm.trans hend) (by simp [Except.map, Except.mapError])
  have hreturned := onLoan_keeps s.loan (s.server.prepare sql) p
  have hend := h.symm.trans (Session.prepare_apply sql keys s p)
  match hcount : (Pooled.onLoan s.loan (s.server.prepare sql)).apply p with
  | (.error f, p'')  =>
    rw [hcount] at hend
    exact absurd hend (by simp [Except.map, Except.mapError])
  | (.ok count, p'') =>
    rw [hcount] at hend hreturned
    obtain ⟨hst, hs⟩ := Prod.mk.inj hend
    obtain ⟨rfl, rfl⟩ := Prod.mk.inj hs
    refine ⟨rfl, ?_, count, Except.ok.inj hst⟩
    rw [hreturned]
    exact hopen

section
variable {sql : String} {p p' : Pooled τ}

theorem prepare_armed {s : Session τ} {c : Core (driver τ)}
    (h : (Core.prepare (D := driver τ) s sql .generated).apply p = (.ok c, p')) :
    ∃ st, Armed sql st (c, p') := by
  match hprepare : (Session.prepare (Positional.ofNamed sql).text .generated).apply (s, p) with
  | (.error f, k, p₁) =>
    have hend := Core.prepare_of_error (D := driver τ) hprepare
    exact absurd (h.symm.trans hend) (by simp)
  | (.ok st, k, p₁)   =>
    have hend := Core.prepare_of_ok (D := driver τ) hprepare
    obtain ⟨rfl, hopen, count, rfl⟩ := Session.prepare_of_ok hprepare
    obtain ⟨hc, rfl⟩ := Prod.mk.inj (h.symm.trans hend)
    obtain rfl := Except.ok.inj hc
    exact ⟨Prepared.fresh k _ .generated count, rfl, rfl, rfl, rfl, hopen⟩

/-- Whoever hands out the connection, an update that could be prepared is ready. -/
theorem begun_armed {o : Life.Origin (driver τ)} {u : Update (driver τ)}
    (h : (Update.begun o sql).apply p = (.ok u, p')) : ∃ st, Armed sql st (u.core, p') := by
  cases o with
  | connection k    =>
    obtain ⟨c, hcore, rfl⟩ := Attempt.ok_of_map h
    exact prepare_armed hcore
  | registry r name =>
    obtain ⟨c, hcore, rfl⟩ := Attempt.ok_of_map h
    obtain ⟨k, p₁, -, hprepare⟩ := Attempt.ok_of_bind hcore
    exact prepare_armed hprepare

theorem bind_same (slot : Nat) (v : Value) (st : Prepared τ) : Prepared.SameStatement st (st.bind slot v).2 := by
  unfold Prepared.bind
  split
  · exact ⟨rfl, rfl, rfl⟩
  · exact ⟨rfl, rfl, rfl⟩

theorem addBatch_same (st : Prepared τ) : Prepared.SameStatement st st.addBatch.2 := by
  unfold Prepared.addBatch
  split
  · exact ⟨rfl, rfl, rfl⟩
  · exact ⟨rfl, rfl, rfl⟩

/-- A call that says nothing to the server leaves an update ready to be run. -/
theorem locally_armed {f : Prepared τ → Except Failure Unit × Prepared τ}
    (hf : ∀ st, Prepared.SameStatement st (f st).2) (E : Error → Core (driver τ) × Pooled τ → Prop) :
    Attempt.Ensures (fun s => ∃ st, Armed sql st s) (Core.onHandle (Handle.onStatement (D := driver τ) (locally f)))
      (fun _ s => ∃ st, Armed sql st s) E := by
  rintro ⟨⟨text, positional, k⟩, p⟩ ⟨st, h⟩
  obtain rfl : k = ⟨some st.session, some st, none⟩ := h.handle
  have hsame := hf st
  refine ⟨(f st).2, h.text, ?_, hsame.sql.trans h.sql, hsame.keys.trans h.keys, ?_⟩
  · rw [hsame.session]
  · rw [hsame.session]
    exact h.opened

theorem callsKeep_armed : Core.CallsKeep (D := driver τ) (fun s => ∃ st, Armed sql st s) fun _ => True :=
  .of_parts (fun slot v => locally_armed (bind_same slot v) _) (locally_armed addBatch_same _)
    fun _ _ _ => True.intro

theorem perform_armed (m : Update.Move) (u : Update (driver τ)) (p : Pooled τ)
    (h : ∃ st, Armed sql st (u.core, p)) (hok : (m.perform u p).failed = false) :
    ∀ u', (m.perform u p).rest = some u' → ∃ st, Armed sql st (u'.core, (m.perform u p).world) := by
  intro u' hu'
  have hends := m.perform_ends callsKeep_armed h
  generalize m.perform u p = a at hok hu' hends
  cases hends with
  | kept c w harmed =>
    obtain rfl := Option.some.inj hu'
    exact harmed
  | failed c w => exact absurd hok (by simp)
  | usedUp c w => exact absurd hok (by simp)

/-- However an update was prepared and bound to, it is ready to be run if nothing has failed. -/
theorem performAll_armed {o : Life.Origin (driver τ)} {p₀ p₁ : Pooled τ} {u₀ u : Update (driver τ)}
    (moves : List Update.Move) (hbegun : (Update.begun o sql).apply p₀ = (.ok u₀, p₁))
    (hmoves : Life.performAll Update.Move.perform moves ⟨false, some u₀, p₁⟩ = ⟨false, some u, p⟩) :
    ∃ st, Armed sql st (u.core, p) := by
  have hend := Life.performAll_keeps (P := fun u p => ∃ st, Armed sql st (u.core, p)) perform_armed moves
    (a := ⟨false, some u₀, p₁⟩) ?_ (by rw [hmoves]) u (by rw [hmoves])
  · rw [hmoves] at hend
    exact hend
  · intro _ u' hu'
    obtain rfl := Option.some.inj hu'
    exact begun_armed hbegun

/-- **A key or a count, and neither wraps.** An update is prepared over a session, and any calls that bind values or
    queue entries succeed. Whatever numbers the server then answers, the answer of the update is the key where that
    is a positive signed number, and otherwise the number of affected rows, cut off at the greatest signed one; an
    update that has to return a key fails instead. A batch answers the keys that its entries have, in their order, or
    if there are none, one count for each entry. -/
theorem key_or_count (o : Life.Origin (driver τ)) (sql : String) (moves : List Update.Move) (p₀ p₁ p : Pooled τ)
    (u₀ u : Update (driver τ)) (hbegun : (Update.begun o sql).apply p₀ = (.ok u₀, p₁))
    (hmoves : Life.performAll Update.Move.perform moves ⟨false, some u₀, p₁⟩ = ⟨false, some u, p⟩) :
    ∃ st : Prepared τ, u.core.handle.statement = some st
      ∧ (∀ vs a k, st.arguments = .ok vs →
          Answers st.session.server (Positional.ofNamed sql).text [vs] p.far [(a, k)] →
            (u.execute.apply p).1.map Int64.toInt = .ok ((keyNumber k).getD (countNumber a))
              ∧ (u.executeReturningKey.apply p).1.map Int64.toInt
                  = match keyNumber k with
                    | some n => .ok n
                    | none   => .error (.noGeneratedKey sql))
      ∧ ∀ effects, Answers st.session.server (Positional.ofNamed sql).text st.batch p.far effects →
          (u.executeBatch.apply p).1.map (·.map Int64.toInt)
            = .ok (if (effects.filterMap fun e => keyNumber e.2).isEmpty
                then effects.map fun e => countNumber e.1
                else effects.filterMap fun e => keyNumber e.2) := by
  obtain ⟨st, h⟩ := performAll_armed moves hbegun hmoves
  refine ⟨st, congrArg Handle.statement h.handle, ?_, ?_⟩
  · intro vs a k hvs hanswers
    rw [h.execute hvs hanswers, h.executeReturningKey hvs hanswers, ← insertedKey_toInt, ← affectedRows_toInt]
    match insertedKey .generated k with
    | some n => exact ⟨rfl, rfl⟩
    | none   => exact ⟨rfl, rfl⟩
  · intro effects hanswers
    have hkeys : (effects.filterMap fun e => insertedKey .generated e.2).map Int64.toInt
        = effects.filterMap fun e => keyNumber e.2 := by
      rw [List.map_filterMap]
      simp only [insertedKey_toInt]
    have hcounts :
        (effects.map fun e => affectedRows e.1).map Int64.toInt = effects.map fun e => countNumber e.1 := by
      rw [List.map_map]
      exact List.map_congr_left fun e _ => affectedRows_toInt e.1
    rw [h.executeBatch hanswers, ← hkeys, ← hcounts, List.isEmpty_map]
    exact congrArg Except.ok (apply_ite (List.map Int64.toInt) _ _ _)

/-- A server that answers each statement with the next of some numbers. -/
def numberingServer : Server (List (UInt64 × UInt64)) where
  acquire   := return ()
  prepare _ := return 0
  run _ _   := .of fun
    | []          => (.error .connectionClosed, [])
    | (a, k) :: r => (.ok (.done a k), r)

/-- The greatest count and the least key that have no place among the signed numbers; in a batch, the keys of the
    entries on either side of that bound. -/
theorem key_or_count_atTheBound :
    ∃ u₀ p₁ u p,
      (Update.begun (.connection (D := driver _) ⟨numberingServer, 0⟩) "insert into t values (1)").apply
          ⟨[(0xffffffffffffffff, 0x8000000000000000), (1, 0x7fffffffffffffff), (1, 0)], 1, []⟩ = (.ok u₀, p₁)
        ∧ Life.performAll Update.Move.perform [.addBatch, .addBatch, .addBatch] ⟨false, some u₀, p₁⟩
          = ⟨false, some u, p⟩
        ∧ (u.execute.apply p).1.map Int64.toInt = .ok 0x7fffffffffffffff
        ∧ (u.executeReturningKey.apply p).1.map Int64.toInt = .error (.noGeneratedKey "insert into t values (1)")
        ∧ (u.executeBatch.apply p).1.map (·.map Int64.toInt) = .ok [0x7fffffffffffffff] := by
  obtain ⟨u₀, p₁, u, p, hbegun, hmoves, hfar, st, hst, hserver, hvs, hbatch⟩ : ∃ u₀ p₁ u p,
      (Update.begun (.connection (D := driver _) ⟨numberingServer, 0⟩) "insert into t values (1)").apply
          ⟨[(0xffffffffffffffff, 0x8000000000000000), (1, 0x7fffffffffffffff), (1, 0)], 1, []⟩ = (.ok u₀, p₁)
        ∧ Life.performAll Update.Move.perform [.addBatch, .addBatch, .addBatch] ⟨false, some u₀, p₁⟩
          = ⟨false, some u, p⟩
        ∧ p.far = [(0xffffffffffffffff, 0x8000000000000000), (1, 0x7fffffffffffffff), (1, 0)]
        ∧ ∃ st : Prepared _, u.core.handle.statement = some st ∧ st.session.server = numberingServer
          ∧ st.arguments = .ok [] ∧ st.batch = [[], [], []] :=
    ⟨_, _, _, _, rfl, rfl, rfl, _, rfl, rfl, rfl, rfl⟩
  obtain ⟨st', hst', honce, hentries⟩ := key_or_count _ _ _ _ _ _ _ _ hbegun hmoves
  obtain rfl : st' = st := Option.some.inj (hst'.symm.trans hst)
  rw [hfar, hserver] at honce hentries
  rw [hbatch] at hentries
  obtain ⟨hexecute, hreturning⟩ := honce [] _ _ hvs (.cons rfl rfl .nil)
  have hall := hentries _ (.cons rfl rfl (.cons rfl rfl (.cons rfl rfl .nil)))
  refine ⟨u₀, p₁, u, p, hbegun, hmoves, hexecute.trans ?_, hreturning.trans ?_, hall.trans ?_⟩
  · exact congrArg Except.ok (by decide)
  · rw [show keyNumber 0x8000000000000000 = none by decide]
  · exact congrArg Except.ok (by decide)

end

end MySql

end NamedSql
