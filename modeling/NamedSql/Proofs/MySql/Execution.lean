import NamedSql.Proofs.Driver.Reading
import NamedSql.Proofs.MySql.Holding
import NamedSql.Proofs.MySql.Sent

/-!
# `Proofs.MySql.Execution` — which values an execution sends

A MySQL statement is run with one query, and the arguments of the query are the values that were set last,
one for each slot. If a slot has no value no query is sent, and the first such slot is reported.

## Contents
- `Delivers`: what is required of an execution.
- **Slots.** `values_slotsAfter_of_complete`, `values_slotsAfter_of_missing`.
- **Running.** `RunsOnce`, for operations on the handle of a statement; each way to run one is of this sort, and
  `finish_sent`, `finish_of_error` say what remains of it after the release.
- **Executions.** `delivers_of_runsOnce`, and one lemma for each way to run a statement.
- `execution_delivers`.
-/

namespace NamedSql.MySql

variable {τ ε ε' α β : Type}

/-- An execution of a statement, after some calls have set values. If every slot was addressed, one query is
    sent, with one argument for each slot, and that is the value set last; otherwise the first slot that was
    not addressed is reported, and nothing is sent. `told` is how a failure is told. -/
structure Delivers (sql : String) (xs : List Setting) (told : Error → ε)
    (x : Attempt (Recorded τ) ε β) (p : Recorded τ) : Prop where
  complete : (∀ i, 1 ≤ i → i ≤ (Positional.ofNamed sql).names.length →
      lastValue (Positional.ofNamed sql).names xs i ≠ none) →
    ∃ vs : List Value, sent (x.apply p).2 = sent p ++ [⟨(Positional.ofNamed sql).text, vs⟩]
      ∧ vs.length = (Positional.ofNamed sql).names.length
      ∧ ∀ i, 1 ≤ i → i ≤ vs.length → vs[i - 1]? = lastValue (Positional.ofNamed sql).names xs i
  incomplete : ∀ k, 1 ≤ k → k ≤ (Positional.ofNamed sql).names.length →
    lastValue (Positional.ofNamed sql).names xs k = none →
    (∀ i, 1 ≤ i → i < k → lastValue (Positional.ofNamed sql).names xs i ≠ none) →
      (x.apply p).1
          = .error (told (.execute sql (.reported ⟨"parameter " ++ toString k ++ " is not bound", []⟩)))
        ∧ sent (x.apply p).2 = sent p

/-! ## Slots -/

/-- Slots that all have values. -/
theorem exists_map_some {slots : List (Option Value)} (h : ∀ o ∈ slots, o ≠ none) :
    ∃ vs : List Value, slots = vs.map some := by
  induction slots with
  | nil => exact ⟨[], rfl⟩
  | cons o slots ih =>
    obtain ⟨v, rfl⟩ := Option.ne_none_iff_exists'.mp (h o (List.mem_cons_self ..))
    obtain ⟨vs, rfl⟩ := ih fun o ho => h o (List.mem_cons_of_mem _ ho)
    exact ⟨v :: vs, rfl⟩

section
variable {p : Positional} {xs : List Setting} (hxs : ∀ x ∈ xs, x.InRange p.names.length)
include hxs

/-- If every slot was addressed, the values of the slots are those set last. -/
theorem values_slotsAfter_of_complete (hall : ∀ i, 1 ≤ i → i ≤ p.names.length → lastValue p.names xs i ≠ none) :
    ∃ vs, Prepared.values 1 (slotsAfter p xs) = .ok vs
      ∧ vs.length = p.names.length ∧ ∀ i, 1 ≤ i → i ≤ vs.length → vs[i - 1]? = lastValue p.names xs i := by
  have hsome : ∀ o ∈ (List.range p.names.length).map fun i => lastValue p.names xs (i + 1), o ≠ none := by
    intro o ho
    obtain ⟨i, hi, rfl⟩ := List.mem_map.mp ho
    exact hall (i + 1) (Nat.le_add_left 1 i) (List.mem_range.mp hi)
  obtain ⟨vs, hvs⟩ := exists_map_some hsome
  have hlength : vs.length = p.names.length := by
    have hl := congrArg List.length hvs
    simpa using hl.symm
  rw [slotsAfter_eq hxs, hvs]
  refine ⟨vs, Prepared.values_of_complete 1 vs, hlength, ?_⟩
  intro i h₁ hi
  -- Slots are counted from one, the list from zero.
  have hlt : i - 1 < vs.length := by omega
  have hslot := congrArg (·[i - 1]?) hvs
  simp only [List.getElem?_map, List.getElem?_range (hlength ▸ hlt), Option.map_some, Nat.sub_add_cancel h₁,
    List.getElem?_eq_getElem hlt] at hslot
  rw [List.getElem?_eq_getElem hlt]
  exact (Option.some.inj hslot).symm

/-- The first slot that was not addressed is reported. -/
theorem values_slotsAfter_of_missing {k : Nat} (h₁ : 1 ≤ k) (hk : k ≤ p.names.length)
    (hnone : lastValue p.names xs k = none) (hbefore : ∀ i, 1 ≤ i → i < k → lastValue p.names xs i ≠ none) :
    Prepared.values 1 (slotsAfter p xs) = .error (Fault.unbound k).failure := by
  -- In front of the missing value stand `j` values, and `m` slots are behind it.
  obtain ⟨j, rfl⟩ : ∃ j, k = j + 1 := ⟨k - 1, (Nat.sub_add_cancel h₁).symm⟩
  obtain ⟨m, hm⟩ : ∃ m, p.names.length = j + (m + 1) := ⟨p.names.length - (j + 1), by omega⟩
  have hsome : ∀ o ∈ (List.range j).map fun i => lastValue p.names xs (i + 1), o ≠ none := by
    intro o ho
    obtain ⟨i, hi, rfl⟩ := List.mem_map.mp ho
    exact hbefore (i + 1) (Nat.le_add_left 1 i) (Nat.succ_lt_succ (List.mem_range.mp hi))
  obtain ⟨vs, hvs⟩ := exists_map_some hsome
  have hlength : vs.length = j := by
    have hl := congrArg List.length hvs
    simpa using hl.symm
  rw [slotsAfter_eq hxs, hm, List.range_add, List.map_append, hvs, List.range_succ_eq_map]
  simp only [List.map_cons, Nat.add_zero, hnone]
  rw [Prepared.values_of_missing, hlength, Nat.add_comm 1 j]

end

/-! ## Running -/

section
variable {server : Server τ} {loan : Nat} {sql : String} {keys : KeyCapture} {slots : List (Option Value)}
  {limit : Option Nat}

/-- An operation that runs the statement of a handle once, if all slots have values. -/
structure RunsOnce (server : Server τ) (loan : Nat) (sql : String) (keys : KeyCapture)
    (slots : List (Option Value)) (limit : Option Nat) (wrap : Failure → ε)
    (x : Attempt (Handle (recordingDriver τ) × Recorded τ) ε β) : Prop where
  bound : ∀ vs, Prepared.values 1 slots = .ok vs → ∀ p, loan ∉ p.returned →
    sent (x.apply (handleHolding ⟨server.recording, loan⟩ sql keys slots limit, p)).2.2
      = sent p ++ [⟨(Positional.ofNamed sql).text, vs⟩]
  unbound : ∀ f, Prepared.values 1 slots = .error f → ∀ p, ∃ h,
    x.apply (handleHolding ⟨server.recording, loan⟩ sql keys slots limit, p) = (.error (wrap f), h, p)

/-- What is done after a run, and sends nothing, changes nothing about it. -/
theorem RunsOnce.bind {wrap : Failure → ε} {x : Attempt (Handle (recordingDriver τ) × Recorded τ) ε α}
    {f : α → Attempt (Handle (recordingDriver τ) × Recorded τ) ε β}
    (hx : RunsOnce server loan sql keys slots limit wrap x) (hf : ∀ a, SendsNothing (f a)) :
    RunsOnce server loan sql keys slots limit wrap (x >>= f) where
  bound := by
    intro vs hvs p hopen
    rw [SendsNothing.bind_sent hf]
    exact hx.bound vs hvs p hopen
  unbound := by
    intro e he p
    obtain ⟨h, hend⟩ := hx.unbound e he p
    exact ⟨h, by rw [Attempt.bind_apply, hend]⟩

theorem executeUpdate_runsOnce :
    RunsOnce server loan sql keys slots limit id (Handle.call (recordingDriver τ).executeUpdate) where
  bound := by
    intro vs hvs p hopen
    refine (call_sent _ _ _ _ p).trans ?_
    exact Prepared.executeUpdate_sent rfl hopen hvs
  unbound := by
    intro f hf p
    have hcall := Prepared.executeUpdate_of_error (p := p)
      (s := statementHolding ⟨server.recording, loan⟩ sql keys slots limit) hf
    exact ⟨_, Handle.call_of_apply (D := recordingDriver τ) hcall _ _⟩

/-- A query, possibly with a limit on its rows, but not with one that leaves none. -/
theorem withQuery_runsOnce (hlimit : limit ≠ some 0) (wrap : Failure → ε)
    {work : Attempt (Cursor × Recorded τ) ε β} (hwork : SendsNothing work) :
    RunsOnce server loan sql keys slots limit wrap (Handle.withQuery wrap work) where
  bound := by
    intro vs hvs p hopen
    refine (withCursor_sent wrap _ hwork _ _ p).trans ((opening_sent _ _ _ p).trans ?_)
    exact Prepared.executeQuery_sent rfl hopen hlimit hvs
  unbound := by
    intro f hf p
    have hquery := Prepared.executeQuery_of_error (p := p)
      (s := statementHolding ⟨server.recording, loan⟩ sql keys slots limit) hf
    have hopening := opening_of_error hquery .result
    exact ⟨_, Handle.withCursor_of_error (D := recordingDriver τ) hopening wrap work _⟩

/-- A limit that is set first is the limit of the run. -/
theorem RunsOnce.limited {n : Option Nat} (told : Failure → ε) {wrap : Failure → ε}
    {x : Attempt (Handle (recordingDriver τ) × Recorded τ) ε β}
    (hx : RunsOnce server loan sql keys slots n wrap x) :
    RunsOnce server loan sql keys slots limit wrap
      ((Handle.call ((recordingDriver τ).setMaxRows n)).reword told >>= fun _ => x) := by
  have hlimit : ∀ p, ((Handle.call ((recordingDriver τ).setMaxRows n)).reword told >>= fun _ => x).apply
      (handleHolding ⟨server.recording, loan⟩ sql keys slots limit, p)
        = x.apply (handleHolding ⟨server.recording, loan⟩ sql keys slots n, p) := fun _ => rfl
  refine ⟨?_, ?_⟩
  · intro vs hvs p hopen
    rw [hlimit]
    exact hx.bound vs hvs p hopen
  · intro f hf p
    rw [hlimit]
    exact hx.unbound f hf p

/-- The release after a run sends nothing. -/
theorem finish_sent {x : Attempt (Handle (recordingDriver τ) × Recorded τ) ε α} (wrap : String → ε → ε')
    (ofRelease : Error → ε') (c : Core (recordingDriver τ)) (p : Recorded τ) :
    sent ((Core.finish wrap ofRelease x).apply (c, p)).2.2 = sent (x.apply (c.handle, p)).2.2 :=
  cleanup_sendsNothing _ _

/-- A failure of a run outweighs what becomes of the release. -/
theorem finish_of_error {x : Attempt (Handle (recordingDriver τ) × Recorded τ) ε α}
    {c : Core (recordingDriver τ)} {p : Recorded τ} {e : ε} {w : Handle (recordingDriver τ) × Recorded τ}
    (h : x.apply (c.handle, p) = (.error e, w)) (wrap : String → ε → ε') (ofRelease : Error → ε') :
    ((Core.finish wrap ofRelease x).apply (c, p)).1 = .error (wrap c.text e) := by
  show settle ofRelease ((x.apply (c.handle, p)).1.mapError (wrap c.text)) _ = _
  rw [h]
  rfl

end

/-! ## What is done with the rows -/

theorem collect_sendsNothing {wrap : Failure → ε} {step : Nat → Cursor → Attempt (Recorded τ) ε α}
    (hstep : ∀ k c p, sent ((step k c).apply p).2 = sent p) (k : Nat) :
    SendsNothing (.of ((recordingDriver τ).collect wrap step k)) := by
  intro c p
  have hnext : ∀ s : Cursor × Recorded τ,
      sent s.2 = sent p → sent ((recordingDriver τ).next.apply s).2.2 = sent p := fun s hs => hs
  have hread : ∀ k c q, sent q = sent p → sent ((step k c).apply q).2 = sent p :=
    fun k c q hq => (hstep k c q).trans hq
  exact Driver.collect_invariant (recordingDriver τ) (R := fun s => sent s.2 = sent p) hnext hread k (c, p) rfl

theorem firstRow_sendsNothing (m : Mapper (driver τ) α) :
    SendsNothing (Select.firstRow (D := recordingDriver τ) (recordingMapper m)) := by
  refine SendsNothing.bind (SendsNothing.reword Halt.failed (SendsNothing.locally Cursor.next)) ?_
  intro b
  cases b with
  | true  => exact fun c p => recordingMapper_sent m 1 c p
  | false => exact SendsNothing.pure none

theorem getAs_sent (t : Target) (c : (recordingDriver τ).Cursor) (n : Nat) (p : Recorded τ) :
    sent (((recordingDriver τ).getAs t c n).apply p).2 = sent p := by
  rw [(recordingDriver τ).getAs_apply_snd]
  rfl

theorem firstKey_sendsNothing : SendsNothing (Update.firstKey (D := recordingDriver τ)) := by
  refine SendsNothing.bind (SendsNothing.locally Cursor.next) ?_
  intro b
  cases b with
  | true  => exact fun c p => getAs_sent _ c 1 p
  | false => exact SendsNothing.pure none

theorem withKeys_sendsNothing :
    SendsNothing (Handle.withKeys (D := recordingDriver τ) id Update.firstKey) := by
  refine withCursor_sendsNothing id _ firstKey_sendsNothing ?_
  intro st p
  exact opening_sent .keys (locally Prepared.generatedKeys) st p

/-! ## Executions -/

section
variable {p : Recorded τ} {f : Failure}

theorem select_run_sent (s : Select (recordingDriver τ) α)
    (op : Attempt (Handle (recordingDriver τ) × Recorded τ) (Halt Failure) β) (p : Recorded τ) :
    sent ((s.run op).apply p).2 = sent (op.apply (s.core.handle, p)).2.2 := by
  rw [Select.run_apply]
  exact finish_sent Select.whileExecuting .failed s.core p

theorem select_run_of_error {s : Select (recordingDriver τ) α}
    {op : Attempt (Handle (recordingDriver τ) × Recorded τ) (Halt Failure) β}
    {h : Handle (recordingDriver τ) × Recorded τ} (hend : op.apply (s.core.handle, p) = (.error (.failed f), h)) :
    ((s.run op).apply p).1 = .error (.failed (.execute s.core.text f)) := by
  rw [Select.run_apply]
  exact finish_of_error hend Select.whileExecuting .failed

theorem update_run_sent (u : Update (recordingDriver τ))
    (op : Attempt (Handle (recordingDriver τ) × Recorded τ) Failure β) (p : Recorded τ) :
    sent ((u.run op).apply p).2 = sent (op.apply (u.core.handle, p)).2.2 :=
  finish_sent .execute id u.core p

theorem update_run_of_error {u : Update (recordingDriver τ)}
    {op : Attempt (Handle (recordingDriver τ) × Recorded τ) Failure β}
    {h : Handle (recordingDriver τ) × Recorded τ} (hend : op.apply (u.core.handle, p) = (.error f, h)) :
    ((u.run op).apply p).1 = .error (.execute u.core.text f) :=
  finish_of_error hend Error.execute id

theorem bind_of_error {x : Attempt (Recorded τ) ε α} {g : α → Attempt (Recorded τ) ε β} {e : ε}
    (hx : (x.apply p).1 = .error e) : ((x >>= g).apply p).1 = .error e := by
  rw [Attempt.bind_apply]
  match hr : x.apply p with
  | (.ok a, q)     => exact absurd (hr ▸ hx) (by simp)
  | (.error e', q) =>
    rw [hr] at hx
    obtain rfl : e' = e := Except.error.inj hx
    rfl

end

/-- What a query or an update is made of when it was prepared over a server with a record, and some calls have
    set values. -/
abbrev coreAfter (server : Server τ) (loan : Nat) (sql : String) (keys : KeyCapture) (xs : List Setting) :
    Core (recordingDriver τ) :=
  holding ⟨server.recording, loan⟩ sql keys (slotsAfter (Positional.ofNamed sql) xs)

section
variable {server : Server τ} {loan : Nat} {sql : String} {keys : KeyCapture} {xs : List Setting} {p : Recorded τ}
  (hxs : ∀ x ∈ xs, x.InRange (Positional.ofNamed sql).names.length) (hopen : loan ∉ p.returned)
include hxs hopen

/-- An execution that sends what an operation sends, and fails when that does, delivers if the operation runs
    the statement once. -/
theorem delivers_of_runsOnce {wrap : Failure → ε} {op : Attempt (Handle (recordingDriver τ) × Recorded τ) ε α}
    (hop : RunsOnce server loan sql keys (slotsAfter (Positional.ofNamed sql) xs) none wrap op)
    {told : Error → ε'} {x : Attempt (Recorded τ) ε' β}
    (hsent : sent (x.apply p).2 = sent (op.apply ((coreAfter server loan sql keys xs).handle, p)).2.2)
    (hfail : ∀ f h, op.apply ((coreAfter server loan sql keys xs).handle, p) = (.error (wrap f), h) →
      (x.apply p).1 = .error (told (.execute sql f))) :
    Delivers sql xs told x p where
  complete := by
    intro hall
    obtain ⟨vs, hvs, hlength, hlast⟩ := values_slotsAfter_of_complete hxs hall
    exact ⟨vs, hsent.trans (hop.bound vs hvs p hopen), hlength, hlast⟩
  incomplete := by
    intro k h₁ hk hnone hbefore
    obtain ⟨h, hend⟩ : ∃ h, op.apply ((coreAfter server loan sql keys xs).handle, p) = (.error (wrap _), h, p) :=
      hop.unbound _ (values_slotsAfter_of_missing hxs h₁ hk hnone hbefore) p
    refine ⟨hfail _ _ hend, ?_⟩
    rw [hsent, hend]

theorem select_execute_delivers (m : Mapper (driver τ) α) (d : Option α) :
    Delivers sql xs Halt.failed
      (Select.execute ⟨coreAfter server loan sql keys xs, recordingMapper m, d⟩) p := by
  have hquery : RunsOnce server loan sql keys (slotsAfter (Positional.ofNamed sql) xs) (some 1) Halt.failed
      (Handle.withQuery Halt.failed (Select.firstRow (recordingMapper m))) :=
    withQuery_runsOnce (by decide) Halt.failed (firstRow_sendsNothing m)
  refine delivers_of_runsOnce hxs hopen (hquery.limited Halt.failed) ?_ ?_
  · -- Whether there is a row is looked at when the run is over.
    unfold Select.execute
    rw [Attempt.bind_apply_snd fun _ _ => rfl]
    exact select_run_sent _ _ p
  · intro f h hend
    unfold Select.execute
    exact bind_of_error
      (select_run_of_error (s := ⟨coreAfter server loan sql keys xs, recordingMapper m, d⟩) hend)

theorem select_executeForAll_delivers (m : Mapper (driver τ) α) (d : Option α) :
    Delivers sql xs Halt.failed
      (Select.executeForAll ⟨coreAfter server loan sql keys xs, recordingMapper m, d⟩) p := by
  have hquery : RunsOnce server loan sql keys (slotsAfter (Positional.ofNamed sql) xs) none Halt.failed
      (Handle.withQuery Halt.failed (.of ((recordingDriver τ).collect Halt.failed (recordingMapper m) 1))) :=
    withQuery_runsOnce (by decide) Halt.failed (collect_sendsNothing (recordingMapper_sent m) 1)
  refine delivers_of_runsOnce hxs hopen hquery (select_run_sent _ _ p) ?_
  intro f h hend
  exact select_run_of_error (s := ⟨coreAfter server loan sql keys xs, recordingMapper m, d⟩) hend

theorem update_execute_delivers :
    Delivers sql xs id (Update.execute ⟨coreAfter server loan sql keys xs⟩) p := by
  have hrun : RunsOnce server loan sql keys (slotsAfter (Positional.ofNamed sql) xs) none id
      (Handle.call (recordingDriver τ).executeUpdate) := executeUpdate_runsOnce
  have hop := hrun.bind fun count =>
    SendsNothing.bind withKeys_sendsNothing fun key => SendsNothing.pure (key.getD count)
  refine delivers_of_runsOnce hxs hopen hop (update_run_sent _ _ p) ?_
  intro f h hend
  exact update_run_of_error (u := ⟨coreAfter server loan sql keys xs⟩) hend

theorem update_executeReturningKey_delivers :
    Delivers sql xs id (Update.executeReturningKey ⟨coreAfter server loan sql keys xs⟩) p := by
  have hrun : RunsOnce server loan sql keys (slotsAfter (Positional.ofNamed sql) xs) none id
      (Handle.call (recordingDriver τ).executeUpdate) := executeUpdate_runsOnce
  have hop := hrun.bind fun _ => withKeys_sendsNothing
  refine delivers_of_runsOnce hxs hopen hop ?_ ?_
  · -- Whether there is a key is looked at when the run is over.
    unfold Update.executeReturningKey
    rw [Attempt.bind_apply_snd]
    · exact update_run_sent _ _ p
    · intro key q
      cases key with
      | some k => rfl
      | none   => rfl
  · intro f h hend
    unfold Update.executeReturningKey
    exact bind_of_error (update_run_of_error (u := ⟨coreAfter server loan sql keys xs⟩) hend)

end

/-- **The values set last are sent, in one query.** A statement is prepared on an open session, and the server
    counts as many parameters as there are names. Then preparing succeeds, for a query as for an update; and
    after any calls of the chain that all succeed, each way to run the statement delivers. -/
theorem execution_delivers (server : Server τ) (loan : Nat) (sql : String) (keys : KeyCapture) (p : Recorded τ)
    (hopen : loan ∉ p.returned)
    (hcount : ((server.prepare (Positional.ofNamed sql).text).apply p.far.1).1
      = .ok (Positional.ofNamed sql).names.length) :
    ∃ c p₁, (Core.prepare (D := recordingDriver τ) ⟨server.recording, loan⟩ sql keys).apply p = (.ok c, p₁)
      ∧ (∀ {α : Type} (m : Mapper (driver τ) α) (d : Option α) xs q p',
          (xs.foldlM (fun q x => Setting.perform x q)
              (⟨c, recordingMapper m, d⟩ : Select (recordingDriver τ) α)).apply p₁ = (.ok q, p') →
            Delivers sql xs Halt.failed q.execute p' ∧ Delivers sql xs Halt.failed q.executeForAll p')
      ∧ (∀ xs u p',
          (xs.foldlM (fun u x => Setting.perform x u) (⟨c⟩ : Update (recordingDriver τ))).apply p₁ = (.ok u, p') →
            Delivers sql xs id u.execute p' ∧ Delivers sql xs id u.executeReturningKey p') := by
  have hslots : (List.replicate (Positional.ofNamed sql).names.length (none : Option Value)).length
      = (Positional.ofNamed sql).names.length := List.length_replicate
  have hprepare := @prepare_holding _ ⟨server.recording, loan⟩ sql p _ hopen hcount keys
  -- The calls write to the slots only, so the session is still open when the statement is run.
  refine ⟨_, _, hprepare, ?_, ?_⟩
  · intro α m d xs q p' hset
    obtain ⟨hxs, rfl, hp'⟩ := foldlM_holding xs rfl hslots hset
    have hopen' : loan ∉ p'.returned := by
      rw [hp']
      exact hopen
    exact ⟨select_execute_delivers hxs hopen' m d, select_executeForAll_delivers hxs hopen' m d⟩
  · intro xs u p' hset
    obtain ⟨hxs, rfl, hp'⟩ := foldlM_holding xs rfl hslots hset
    have hopen' : loan ∉ p'.returned := by
      rw [hp']
      exact hopen
    exact ⟨update_execute_delivers hxs hopen', update_executeReturningKey_delivers hxs hopen'⟩

/-- A server that counts question marks, and where every statement affects one row. -/
def countingServer : Server Unit where
  acquire     := return ()
  prepare sql := return sql.toList.count '?'
  run _ _     := return .done 1 0

/-- The later of two values for the first slot is sent, although it was set by number and the earlier one by
    name. -/
theorem execution_delivers_twoSlots :
    ∃ c p₁, (Core.prepare (D := recordingDriver Unit) ⟨countingServer.recording, 0⟩
        "update t set a = :a where b = :b" .generated).apply ⟨((), []), 1, []⟩ = (.ok c, p₁)
      ∧ ∀ u p', ([.set "a" (.int 1), .set "b" (.text "x"), .setAt 1 (.int 3)].foldlM
            (fun u x => Setting.perform x u) (⟨c⟩ : Update (recordingDriver Unit))).apply p₁ = (.ok u, p') →
          ∃ vs, sent (u.execute.apply p').2 = sent p' ++ [⟨"update t set a = ? where b = ?", vs⟩]
            ∧ vs.length = 2 ∧ vs[0]? = some (.int 3) ∧ vs[1]? = some (.text "x") := by
  have hnamed : Positional.ofNamed "update t set a = :a where b = :b"
      = ⟨"update t set a = ? where b = ?", ["a", "b"]⟩ := by decide +kernel
  have hcount : ((countingServer.prepare (Positional.ofNamed "update t set a = :a where b = :b").text).apply ()).1
      = .ok (Positional.ofNamed "update t set a = :a where b = :b").names.length := by
    rw [hnamed]
    have hmarks : "update t set a = ? where b = ?".toList.count '?' = 2 := by decide +kernel
    exact congrArg Except.ok hmarks
  obtain ⟨c, p₁, hprepare, -, hupdate⟩ := execution_delivers countingServer 0 "update t set a = :a where b = :b"
    .generated ⟨((), []), 1, []⟩ (by decide) hcount
  refine ⟨c, p₁, hprepare, ?_⟩
  intro u p' hset
  obtain ⟨hcomplete, -⟩ := (hupdate _ u p' hset).1
  rw [hnamed] at hcomplete
  have hall : ∀ i, 1 ≤ i → i ≤ 2 → lastValue ["a", "b"]
      [.set "a" (.int 1), .set "b" (.text "x"), .setAt 1 (.int 3)] i ≠ none := by
    intro i h₁ h₂
    have hi : i = 1 ∨ i = 2 := by omega
    rcases hi with rfl | rfl
    · simp [lastValue, Setting.Addresses]
    · simp [lastValue, Setting.Addresses]
  obtain ⟨vs, hsent, hlength, hlast⟩ := hcomplete hall
  have hlength' : vs.length = 2 := hlength
  refine ⟨vs, hsent, hlength', ?_, ?_⟩
  · rw [hlast 1 (by omega) (by omega)]
    simp [lastValue, Setting.Addresses, Setting.value]
  · rw [hlast 2 (by omega) (by omega)]
    simp [lastValue, Setting.Addresses, Setting.value]

end NamedSql.MySql
