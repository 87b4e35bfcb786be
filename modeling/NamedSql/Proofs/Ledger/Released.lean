import NamedSql.Proofs.Ledger.Directed
import NamedSql.Proofs.Statement.Spent

/-!
# `Proofs.Ledger.Released` — released for good

A handle that has released everything stays as it is: no operation makes a call any more, whatever has become of
the closes. A statement comes to this when a call on it fails. One that was bound to in place is still in its
owner's hands then, and whatever is done with it, nothing more happens.

## Contents
- `Handle.Op.perform_of_isReleased`, `Handle.foldl_of_isReleased`, `Handle.isReleased_of_mem_cleanup`.
- `Life.After.next`, `Life.performAll`: the calls on a statement one after the other, and `Life.performAll_keeps`,
  what they keep as long as all succeed; `Life.FailsForGood`, and
  `Life.failsForGood`, which has it from one call that fails and from one call on a released statement.
- `Select.failsForGood`, `Update.failsForGood`.
- `no_call_after_close`.
-/

namespace NamedSql

open Ledger

variable {σ τ α M S : Type} {D : Driver σ}

/-! ## Handles -/

namespace Handle

variable {s : Handle D.audited × σ × Ledger}

theorem Op.perform_of_isReleased (op : Op D) (h : s.1.isReleased = true) : op.perform s = s := by
  have hspent := spent_of_isReleased h
  cases op with
  | prepare sql keys     => exact congrArg Prod.snd (hspent.prepare sql keys)
  | openQuery work only  => exact congrArg Prod.snd (hspent.openQuery id work)
  | openKeys work only   => exact congrArg Prod.snd (hspent.openKeys id work)
  | onStatement use only => exact congrArg Prod.snd (hspent.statement use)
  | cleanup              => exact congrArg Prod.snd hspent.cleanup

theorem foldl_of_isReleased (ops : List (Op D)) (h : s.1.isReleased = true) :
    ops.foldl (fun s op => op.perform s) s = s := by
  induction ops with
  | nil => rfl
  | cons op ops ih =>
    rw [List.foldl_cons, op.perform_of_isReleased h]
    exact ih

/-- A cleanup releases everything, also if its closes fail, and what follows it changes nothing. -/
theorem isReleased_of_mem_cleanup {ops : List (Op D)} (h : .cleanup ∈ ops) :
    (ops.foldl (fun s op => op.perform s) s).1.isReleased = true := by
  obtain ⟨before, after, rfl⟩ := List.append_of_mem h
  rw [List.foldl_append, List.foldl_cons]
  have hreleased : (Op.cleanup.perform (before.foldl (fun s op => op.perform s) s)).1.isReleased = true :=
    isReleased_iff.mpr (cleanup_owns_nothing _)
  rw [foldl_of_isReleased after hreleased]
  exact hreleased

end Handle

/-! ## Statements -/

namespace Life

/-- One more call, if the statement is still there. Whether a call has failed is remembered. -/
def After.next (perform : M → S → τ → After S τ) (a : After S τ) (m : M) : After S τ :=
  match a.rest with
  | none   => a
  | some s =>
    let b := perform m s a.world
    ⟨a.failed || b.failed, b.rest, b.world⟩

/-- The calls on a statement, one after the other, until it is used up. -/
def performAll (perform : M → S → τ → After S τ) (ms : List M) (a : After S τ) : After S τ :=
  ms.foldl (After.next perform) a

/-- Once a call on a statement has failed, the world stays as it is whatever is called, and the statement, where
    it is still there, has no more answers than those of a spent one. -/
def FailsForGood (Spent : S → τ → Prop) (perform : M → S → τ → After S τ) (s : S) (w : τ) : Prop :=
  ∀ ms later : List M, (performAll perform ms ⟨false, some s, w⟩).failed = true →
    let a := performAll perform ms ⟨false, some s, w⟩
    let b := performAll perform later a
    b.world = a.world ∧ ∀ s', b.rest = some s' → Spent s' b.world

/-- The statement is sound where it is still there, and released if a call has failed. -/
def After.Standing (P : S → τ → Prop) (Q : S → Prop) (a : After S τ) : Prop :=
  ∀ s, a.rest = some s → P s a.world ∧ (a.failed = true → Q s)

section
variable {P : S → τ → Prop} {Q : S → Prop} {perform : M → S → τ → After S τ}

theorem After.Standing.next (hstep : ∀ m s w, P s w → (perform m s w).Standing P Q)
    (hstill : ∀ m s w, Q s → ∀ s', (perform m s w).rest = some s' → Q s') {a : After S τ} (h : a.Standing P Q)
    (m : M) : (a.next perform m).Standing P Q := by
  intro s' hs'
  unfold After.next at hs' ⊢
  match hrest : a.rest with
  | none   =>
    rw [hrest] at hs'
    exact absurd (hrest.symm.trans hs') (Option.some_ne_none s').symm
  | some s =>
    rw [hrest] at hs'
    obtain ⟨hsound, hreleased⟩ := h s hrest
    obtain ⟨hsound', hreleased'⟩ := hstep m s a.world hsound s' hs'
    refine ⟨hsound', ?_⟩
    intro hfailed
    -- What failed is an earlier call or this one.
    rcases Bool.or_eq_true_iff.mp hfailed with hbefore | hnow
    · exact hstill m s a.world (hreleased hbefore) s' hs'
    · exact hreleased' hnow

theorem After.Standing.performAll (hstep : ∀ m s w, P s w → (perform m s w).Standing P Q)
    (hstill : ∀ m s w, Q s → ∀ s', (perform m s w).rest = some s' → Q s') (ms : List M) {a : After S τ}
    (h : a.Standing P Q) : (performAll perform ms a).Standing P Q := by
  unfold Life.performAll
  induction ms generalizing a with
  | nil => exact h
  | cons m ms ih => exact ih (h.next hstep hstill m)

/-- Calls on a released statement change nothing. -/
theorem performAll_still
    (hstill : ∀ m s w, Q s → (perform m s w).world = w ∧ ∀ s', (perform m s w).rest = some s' → Q s') (ms : List M)
    {a : After S τ} (h : ∀ s, a.rest = some s → Q s) :
    (performAll perform ms a).world = a.world ∧ ∀ s, (performAll perform ms a).rest = some s → Q s := by
  unfold performAll
  induction ms generalizing a with
  | nil => exact ⟨rfl, h⟩
  | cons m ms ih =>
    have hnext : (a.next perform m).world = a.world ∧ ∀ s, (a.next perform m).rest = some s → Q s := by
      unfold After.next
      match hrest : a.rest with
      | none   => exact ⟨rfl, h⟩
      | some s => exact hstill m s a.world (h s hrest)
    obtain ⟨hworld, hrest⟩ := ih hnext.2
    exact ⟨hworld.trans hnext.1, hrest⟩

/-- What each call that succeeds keeps, any number of them keep that all succeed. -/
theorem performAll_keeps (hstep : ∀ m s w, P s w → (perform m s w).failed = false →
      ∀ s', (perform m s w).rest = some s' → P s' (perform m s w).world) (ms : List M) {a : After S τ}
    (h : a.failed = false → ∀ s, a.rest = some s → P s a.world)
    (hok : (performAll perform ms a).failed = false) :
    ∀ s, (performAll perform ms a).rest = some s → P s (performAll perform ms a).world := by
  unfold performAll at hok ⊢
  induction ms generalizing a with
  | nil => exact h hok
  | cons m ms ih =>
    refine ih ?_ hok
    unfold After.next
    match hrest : a.rest with
    | none   => exact h
    | some s =>
      intro hok' s' hs'
      obtain ⟨hbefore, hnow⟩ := Bool.or_eq_false_iff.mp hok'
      exact hstep m s a.world (h hbefore s hrest) hnow s' hs'

/-- A statement fails for good if a call that fails releases it, and a call on a released one changes nothing. -/
theorem failsForGood {Spent : S → τ → Prop} (hstep : ∀ m s w, P s w → (perform m s w).Standing P Q)
    (hstill : ∀ m s w, Q s → (perform m s w).world = w ∧ ∀ s', (perform m s w).rest = some s' → Q s')
    (hspent : ∀ s w, Q s → Spent s w) {s : S} {w : τ} (h : P s w) : FailsForGood Spent perform s w := by
  intro ms later hfailed a b
  have hbegin : After.Standing P Q ⟨false, some s, w⟩ := by
    intro s' hs'
    obtain rfl : s = s' := Option.some.inj hs'
    exact ⟨h, fun hfalse => absurd hfalse Bool.false_ne_true⟩
  have hstanding : a.Standing P Q := hbegin.performAll hstep (fun m s w hq => (hstill m s w hq).2) ms
  obtain ⟨hworld, hrest⟩ := performAll_still hstill later fun s' hs' => (hstanding s' hs').2 hfailed
  exact ⟨hworld, fun s' hs' => hspent s' b.world (hrest s' hs')⟩

end

/-! ## One call -/

section
variable {Q : S → Prop} {s : S} {w : τ}

theorem chained_of_unchanged {x : Attempt τ Error S} {r : Except Error S} (h : x.apply w = (r, w))
    (hr : ∀ s', r = .ok s' → Q s') :
    (chained x w).world = w ∧ ∀ s', (chained x w).rest = some s' → Q s' := by
  unfold chained
  rw [h]
  cases r with
  | ok s₁   =>
    refine ⟨rfl, ?_⟩
    intro s' hs'
    obtain rfl : s₁ = s' := Option.some.inj hs'
    exact hr s₁ rfl
  | error e => exact ⟨rfl, fun s' hs' => absurd hs' (Option.some_ne_none s').symm⟩

theorem inPlace_of_unchanged {x : Attempt (S × τ) Error Unit} {r : Except Error Unit}
    (h : x.apply (s, w) = (r, s, w)) (hs : Q s) :
    (inPlace x s w).world = w ∧ ∀ s', (inPlace x s w).rest = some s' → Q s' := by
  have hend : (inPlace x s w).world = w ∧ (inPlace x s w).rest = some s := by
    unfold inPlace
    rw [h]
    cases r with
    | ok u    => exact ⟨rfl, rfl⟩
    | error e => exact ⟨rfl, rfl⟩
  refine ⟨hend.1, ?_⟩
  intro s' hs'
  obtain rfl : s = s' := Option.some.inj (hend.2.symm.trans hs')
  exact hs

end

/-- A statement that owns nothing any more. -/
def Released (D : Driver σ) [HasCore D S] (s : S) : Prop := (HasCore.core s : Core D).handle.isReleased = true

theorem Binding.perform_of_released [HasCore D S] (b : Binding) {s : S} {w : σ} (h : Released D s) :
    (b.perform s w).world = w ∧ ∀ s', (b.perform s w).rest = some s' → Released D s' := by
  have hspent : HasCore.Spent s w := HasCore.spent_of_isReleased h w
  have hset : ∀ name s', (if name ∈ (HasCore.core s : Core D).positional.names then .error .statementClosed
      else .ok s : Except Error S) = .ok s' → Released D s' := by
    intro name s' hs'
    by_cases hname : name ∈ (HasCore.core s : Core D).positional.names
    · rw [if_pos hname] at hs'
      exact absurd hs' (by simp)
    · rw [if_neg hname] at hs'
      obtain rfl : s = s' := Except.ok.inj hs'
      exact h
  cases b with
  | chain x          =>
    cases x with
    | set name v     => exact chained_of_unchanged (hspent.set name v) (hset name)
    | setNull name t => exact chained_of_unchanged (hspent.set name (.null t)) (hset name)
    | setAt slot v   => exact chained_of_unchanged (hspent.setAt slot v) (fun s' hs' => absurd hs' (by simp))
  | bindValue name v => exact inPlace_of_unchanged (hspent.bindValue name v) h
  | bindIndex slot v => exact inPlace_of_unchanged (hspent.bindIndex slot v) h

/-- A call that fails leaves nothing that is owned. -/
theorem After.Ends.released [HasCore D.audited S] {s s' : S} {a : After S (σ × Ledger)}
    (h : a.Ends Core.Sound Core.Gone s) (hrest : a.rest = some s') (hfailed : a.failed = true) :
    Released D.audited s' := by
  cases h with
  | kept c w hsound => exact absurd hfailed Bool.false_ne_true
  | failed c w hgone =>
    obtain rfl : HasCore.withCore s c = s' := Option.some.inj hrest
    unfold Released
    rw [HasCore.core_withCore]
    exact Handle.isReleased_iff.mpr hgone.empty
  | usedUp c w hgone => exact absurd hrest (Option.some_ne_none s').symm

end Life

open Life

theorem Select.failsForGood {s : Select D.audited α} {w : σ × Ledger} (h : s.Sound w) :
    FailsForGood Select.Spent Select.Move.perform s w := by
  refine Life.failsForGood (P := Select.Sound) (Q := Released D.audited) ?_ ?_ ?_ h
  · intro m s w hsound s' hs'
    have hkeeps := m.perform_keeps s w hsound
    unfold After.Keeps at hkeeps
    rw [hs'] at hkeeps
    refine ⟨hkeeps.1, ?_⟩
    intro hfailed
    cases m with
    | bind b        =>
      have hends := b.perform_ends (S := Select D.audited α) Core.callsKeep_sound hsound.1
      exact hends.released hs' hfailed
    | withDefault x => exact absurd hfailed Bool.false_ne_true
  · intro m s w hs
    cases m with
    | bind b        => exact b.perform_of_released hs
    | withDefault x =>
      refine ⟨rfl, ?_⟩
      intro s' hs'
      obtain rfl : s.withDefault x = s' := Option.some.inj hs'
      exact hs
  · intro s w hs
    exact Select.spent_of_isReleased hs w

theorem Update.failsForGood {u : Update D.audited} {w : σ × Ledger} (h : Core.Sound (u.core, w)) :
    FailsForGood Update.Spent Update.Move.perform u w := by
  refine Life.failsForGood (P := fun u w => Core.Sound (u.core, w)) (Q := Released D.audited) ?_ ?_ ?_ h
  · intro m u w hsound u' hu'
    have hkeeps := m.perform_keeps u w hsound
    unfold After.Keeps at hkeeps
    rw [hu'] at hkeeps
    exact ⟨hkeeps.1, (m.perform_ends Core.callsKeep_sound hsound).released hu'⟩
  · intro m u w hu
    cases m with
    | bind b   => exact b.perform_of_released hu
    | addBatch =>
      refine chained_of_unchanged (Update.spent_of_isReleased hu w).addBatch ?_
      intro u' hu'
      exact absurd hu' (by simp)
  · intro u w hu
    exact Update.spent_of_isReleased hu w

/-- **No call after a close, and none after the release.** Whatever a handle is used for and whichever calls fail,
    each call goes to an object that is open; a cleanup releases the handle, and from then on its answers are those
    of a spent handle and nothing changes. In the life of a query or an update, too, each call goes to an object
    that is open, and after the first call that fails nothing changes any more: a statement that is left then
    answers as a spent one does. -/
theorem no_call_after_close (D : Driver σ) :
    (∀ (k : D.Connection) (w : σ) (ops : List (Handle.Op D)),
      let s := ops.foldl (fun s op => op.perform s) (Handle.started k w)
      Directed (Handle.ledgerOfRun k w ops)
        ∧ (.cleanup ∈ ops → s.1.isReleased = true)
        ∧ (s.1.isReleased = true →
            Handle.Spent s ∧ ∀ later : List (Handle.Op D), later.foldl (fun s op => op.perform s) s = s))
      ∧ (∀ (life : Life D) (w : σ), ∀ m ∈ life.trace w, Directed m.ledger)
      ∧ (∀ {α : Type} (origin : Origin D) (sql : String) (mapper : Mapper D α) (w : σ) (s : Select D.audited α)
          (w' : σ × Ledger), (origin.select sql mapper).apply (w, origin.ledger) = (.ok s, w') →
            FailsForGood Select.Spent Select.Move.perform s w')
      ∧ ∀ (origin : Origin D) (sql : String) (w : σ) (u : Update D.audited) (w' : σ × Ledger),
          (origin.update sql).apply (w, origin.ledger) = (.ok u, w') →
            FailsForGood Update.Spent Update.Move.perform u w' := by
  refine ⟨?_, Life.trace_directed, ?_, ?_⟩
  · intro k w ops s
    refine ⟨(Handle.ledgerOfRun_kept k w ops).directed, Handle.isReleased_of_mem_cleanup, ?_⟩
    intro hreleased
    exact ⟨Handle.spent_of_isReleased hreleased, fun later => Handle.foldl_of_isReleased later hreleased⟩
  · intro α origin sql mapper w s w' hs
    have hsound := origin.select_sound sql mapper (w, origin.ledger) rfl
    rw [hs] at hsound
    exact Select.failsForGood hsound
  · intro origin sql w u w' hu
    have hsound := origin.update_sound sql (w, origin.ledger) rfl
    rw [hu] at hsound
    exact Update.failsForGood hsound

end NamedSql
